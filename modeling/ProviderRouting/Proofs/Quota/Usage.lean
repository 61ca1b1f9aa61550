import ProviderRouting.Proofs.Quota.Interleaving
import Mathlib.Data.List.DropRight

/-!
# The uses behind an entry's counters

A key's uses since its last reset fall into windows: one is opened by the first use that no
earlier window covers, and it covers all times from then until its length has passed.  An entry
keeps the opening and the counts of one window only, and forgets them whenever something that
happens to the key finds the window over.  This module says what the windows are; what an entry
keeps of them is the subject of the next.
-/

namespace ProviderRouting

structure Usage where
  tokens : UInt64
  time : Millis

def tokensOf : List Usage → Nat
  | [] => 0
  | usage :: rest => usage.tokens.toNat + tokensOf rest

theorem tokensOf_append (first second : List Usage) :
    tokensOf (first ++ second) = tokensOf first + tokensOf second := by
  induction first with
  | nil => exact (Nat.zero_add _).symm
  | cons usage rest ih => rw [List.cons_append, tokensOf, tokensOf, ih, Nat.add_assoc]

/-! ## Since the last reset -/

namespace LedgerEvent

def isReset : LedgerEvent → Bool
  | .clear _ _ => true
  | _ => false

/-- When an event happens; settings are taken over at no time. -/
def time? : LedgerEvent → Option Millis
  | .error event => some event.time
  | .success event => some event.time
  | .usage _ _ time => some time
  | .report _ time => some time
  | .static _ _ _ => none
  | .clear _ time => some time

def usage? : LedgerEvent → Option Usage
  | .usage _ tokens time => some ⟨tokens, time⟩
  | _ => none

/-- What happened to a key since it was last reset. -/
def sinceReset (key : ProviderKey) (history : List LedgerEvent) : List LedgerEvent :=
  (ofKey key history).rtakeWhile fun event => !event.isReset

variable {key : ProviderKey} {history : List LedgerEvent} {event : LedgerEvent}

theorem ofKey_append_singleton (key : ProviderKey) (history : List LedgerEvent)
    (event : LedgerEvent) :
    ofKey key (history ++ [event]) =
      ofKey key history ++ if event.key = key then [event] else [] := by
  have hlast : ofKey key [event] = if event.key = key then [event] else [] := ofKey_cons key event []
  rw [← hlast]
  exact List.filter_append history [event]

theorem sinceReset_append_of_ne (hkey : event.key ≠ key) :
    sinceReset key (history ++ [event]) = sinceReset key history := by
  rw [sinceReset, ofKey_append_singleton, if_neg hkey, List.append_nil, ← sinceReset]

theorem sinceReset_append_self (hkey : event.key = key) :
    sinceReset key (history ++ [event]) =
      if event.isReset then [] else sinceReset key history ++ [event] := by
  rw [sinceReset, ofKey_append_singleton, if_pos hkey, List.rtakeWhile_concat, ← sinceReset]
  cases event.isReset <;> rfl

/-- Whatever is told of events, a reset begins it anew, and any other event adds to its end. -/
theorem filterMap_sinceReset_append {Told : Type} (tell : LedgerEvent → Option Told)
    (hkey : event.key = key) :
    (sinceReset key (history ++ [event])).filterMap tell =
      if event.isReset then [] else (sinceReset key history).filterMap tell ++ (tell event).toList
    := by
  rw [sinceReset_append_self hkey]
  cases event.isReset with
  | true => rfl
  | false =>
      change List.filterMap tell (_ ++ [event]) = _ ++ _
      rw [List.filterMap_append]
      cases htold : tell event <;> simp [htold]

end LedgerEvent

def usagesSince (key : ProviderKey) (history : List LedgerEvent) : List Usage :=
  (LedgerEvent.sinceReset key history).filterMap LedgerEvent.usage?

/-- The times at which something happened to a key since its last reset. -/
def timesSince (key : ProviderKey) (history : List LedgerEvent) : List Millis :=
  (LedgerEvent.sinceReset key history).filterMap LedgerEvent.time?

section

variable {key : ProviderKey} {history : List LedgerEvent} {event : LedgerEvent}

theorem usagesSince_append_of_ne (hkey : event.key ≠ key) :
    usagesSince key (history ++ [event]) = usagesSince key history := by
  rw [usagesSince, LedgerEvent.sinceReset_append_of_ne hkey, ← usagesSince]

theorem timesSince_append_of_ne (hkey : event.key ≠ key) :
    timesSince key (history ++ [event]) = timesSince key history := by
  rw [timesSince, LedgerEvent.sinceReset_append_of_ne hkey, ← timesSince]

theorem usagesSince_append_self (hkey : event.key = key) :
    usagesSince key (history ++ [event]) =
      if event.isReset then [] else usagesSince key history ++ event.usage?.toList :=
  LedgerEvent.filterMap_sinceReset_append LedgerEvent.usage? hkey

theorem timesSince_append_self (hkey : event.key = key) :
    timesSince key (history ++ [event]) =
      if event.isReset then [] else timesSince key history ++ event.time?.toList :=
  LedgerEvent.filterMap_sinceReset_append LedgerEvent.time? hkey

theorem usagesSince_append_usage (key : ProviderKey) (history : List LedgerEvent)
    (tokens : UInt64) (time : Millis) :
    usagesSince key (history ++ [.usage key tokens time]) =
      usagesSince key history ++ [⟨tokens, time⟩] :=
  usagesSince_append_self rfl

/-- What neither resets nor uses a key leaves its uses as they are. -/
theorem usagesSince_append_of_other (hreset : event.isReset = false)
    (hnone : event.usage? = none) :
    usagesSince key (history ++ [event]) = usagesSince key history := by
  by_cases hkey : event.key = key
  · rw [usagesSince_append_self hkey, hreset, hnone]
    exact List.append_nil _
  · exact usagesSince_append_of_ne hkey

/-- Times in order, up to now, are in order up to the last event, which is not later than now. -/
theorem timesSince_ordered {now : Millis} (hkey : event.key = key) (hreset : event.isReset = false)
    (hordered : (timesSince key (history ++ [event]) ++ [now]).Pairwise (· ≤ ·)) :
    (timesSince key history ++ [now]).Pairwise (· ≤ ·) ∧
      ∀ time ∈ event.time?, time ≤ now ∧
        (timesSince key history ++ [time]).Pairwise (· ≤ ·) := by
  have htimes : timesSince key (history ++ [event]) =
      timesSince key history ++ event.time?.toList := by
    rw [timesSince_append_self hkey, hreset]
    rfl
  rw [htimes] at hordered
  constructor
  · have hsublist := (List.sublist_append_left (timesSince key history) event.time?.toList)
    exact hordered.sublist (hsublist.append_right [now])
  · intro time htime
    rw [Option.mem_def.mp htime, Option.toList_some] at hordered
    obtain ⟨hearlier, -, hnow⟩ := List.pairwise_append.mp hordered
    exact ⟨hnow time (by simp) now List.mem_cons_self, hearlier⟩

/-- A use happens when it happens. -/
theorem sublist_timesSince (key : ProviderKey) (history : List LedgerEvent) :
    ((usagesSince key history).map Usage.time).Sublist (timesSince key history) := by
  rw [usagesSince, timesSince]
  induction LedgerEvent.sinceReset key history with
  | nil => exact List.Sublist.slnil
  | cons event rest ih =>
      cases event with
      | usage other tokens time => exact ih.cons_cons time
      | static other limits tier => exact ih
      | error event => exact ih.cons event.time
      | success event => exact ih.cons event.time
      | report given time => exact ih.cons time
      | clear other time => exact ih.cons time

end

/-! ## Windows -/

/-- A usage window: the use that opened it, and those that followed in it. -/
structure UsageWindow where
  first : Usage
  later : List Usage

namespace UsageWindow

def usages (window : UsageWindow) : List Usage :=
  window.first :: window.later

def isOver (length : Millis) (window : UsageWindow) (now : Millis) : Bool :=
  decide (window.first.time.value + length.value ≤ now.value)

def covers (length : Millis) (window : UsageWindow) (now : Millis) : Bool :=
  decide (window.first.time ≤ now) && !window.isOver length now

/-- Put a use into the last window, or into a new one if that is over. -/
def enter (length : Millis) : List UsageWindow → Usage → List UsageWindow
  | [], usage => [⟨usage, []⟩]
  | last :: earlier, usage =>
      if last.isOver length usage.time then ⟨usage, []⟩ :: last :: earlier
      else { last with later := last.later ++ [usage] } :: earlier

end UsageWindow

/-- The windows that some uses fall into, the last one first. -/
def usageWindows (length : Millis) (usages : List Usage) : List UsageWindow :=
  usages.foldl (UsageWindow.enter length) []

/-- The uses in the window that a time lies in; none if it lies in no window. -/
def usagesAt (length : Millis) (usages : List Usage) (now : Millis) : List Usage :=
  (((usageWindows length usages).find? fun window => window.covers length now).map
    UsageWindow.usages).getD []

/-- Windows, the last one first, divide some uses: each use lies in its own window, and no window
is opened before the earlier ones are over. -/
structure Divides (length : Millis) (windows : List UsageWindow) (usages : List Usage) : Prop where
  all : windows.reverse.flatMap UsageWindow.usages = usages
  within : ∀ window ∈ windows, ∀ usage ∈ window.usages, window.covers length usage.time = true
  apart : windows.Pairwise fun later earlier => earlier.isOver length later.first.time = true

variable {length : Millis} {usages : List Usage} {usage : Usage} {now : Millis}

namespace UsageWindow

variable {window : UsageWindow} {time : Millis}

theorem isOver_iff :
    window.isOver length now = true ↔ window.first.time.value + length.value ≤ now.value :=
  decide_eq_true_iff

theorem covers_iff :
    window.covers length now = true ↔
      window.first.time ≤ now ∧ ¬ window.isOver length now = true := by
  rw [covers, Bool.and_eq_true, decide_eq_true_iff, Bool.not_eq_true', Bool.not_eq_true]

/-- What is over stays over. -/
theorem isOver_of_le (hover : window.isOver length time = true) (hle : time ≤ now) :
    window.isOver length now = true :=
  isOver_iff.mpr (Int.le_trans (isOver_iff.mp hover) hle)

theorem first_mem_usages (window : UsageWindow) : window.first ∈ window.usages :=
  List.mem_cons_self

/-- The uses of the last window that is not over. -/
def openAt (length : Millis) (now : Millis) : List UsageWindow → List Usage
  | [] => []
  | last :: _ => if last.isOver length now then [] else last.usages

end UsageWindow

section

open UsageWindow

theorem usageWindows_append_singleton (length : Millis) (usages : List Usage) (usage : Usage) :
    usageWindows length (usages ++ [usage]) = enter length (usageWindows length usages) usage := by
  rw [usageWindows, List.foldl_append]
  rfl

/-- One more use is the last one of the window that is open then. -/
theorem exists_last_window (length : Millis) (usages : List Usage) (usage : Usage) :
    ∃ last earlier, usageWindows length (usages ++ [usage]) = last :: earlier ∧
      last.usages = openAt length usage.time (usageWindows length usages) ++ [usage] ∧
      earlier.Sublist (usageWindows length usages) := by
  rw [usageWindows_append_singleton]
  cases usageWindows length usages with
  | nil => exact ⟨⟨usage, []⟩, [], rfl, rfl, .slnil⟩
  | cons last earlier =>
      rw [enter, openAt]
      by_cases hover : last.isOver length usage.time = true
      · rw [if_pos hover, if_pos hover]
        exact ⟨⟨usage, []⟩, last :: earlier, rfl, rfl, .refl _⟩
      · rw [if_neg hover, if_neg hover]
        exact ⟨_, earlier, rfl, rfl, List.sublist_cons_self last earlier⟩

end

namespace Divides

open UsageWindow

variable {windows : List UsageWindow} {window : UsageWindow}

theorem mem (hdivides : Divides length windows usages) (hwindow : window ∈ windows)
    (husage : usage ∈ window.usages) : usage ∈ usages := by
  rw [← hdivides.all]
  exact List.mem_flatMap.mpr ⟨window, List.mem_reverse.mpr hwindow, husage⟩

theorem first_le (hdivides : Divides length windows usages)
    (hnow : ∀ usage ∈ usages, usage.time ≤ now) (hwindow : window ∈ windows) :
    window.first.time ≤ now :=
  hnow _ (hdivides.mem hwindow window.first_mem_usages)

/-- Once the last window is over, all are. -/
theorem isOver_of_last {last : UsageWindow} {earlier : List UsageWindow}
    (hdivides : Divides length (last :: earlier) usages)
    (hnow : ∀ usage ∈ usages, usage.time ≤ now) (hover : last.isOver length now = true)
    (hwindow : window ∈ last :: earlier) : window.isOver length now = true := by
  rcases List.mem_cons.mp hwindow with rfl | hearlier
  · exact hover
  · have hapart := (List.pairwise_cons.mp hdivides.apart).1 window hearlier
    exact isOver_of_le hapart (hdivides.first_le hnow List.mem_cons_self)

/-- A use that comes when all windows are over opens one. -/
theorem opens (hdivides : Divides length windows usages) (hlength : 0 < length)
    (hover : ∀ window ∈ windows, window.isOver length usage.time = true) :
    Divides length (⟨usage, []⟩ :: windows) (usages ++ [usage]) where
  all := by
    rw [← hdivides.all, List.reverse_cons, List.flatMap_append]
    rfl
  within window hwindow other hother := by
    rcases List.mem_cons.mp hwindow with rfl | hold
    · rw [List.mem_singleton.mp hother]
      refine covers_iff.mpr ⟨Int.le_refl _, fun hended => ?_⟩
      have hend : usage.time.value + length.value ≤ usage.time.value := isOver_iff.mp hended
      have hpositive : 0 < length.value := hlength
      omega
    · exact hdivides.within window hold other hother
  apart := List.pairwise_cons.mpr ⟨hover, hdivides.apart⟩

/-- A use that the last window covers joins it. -/
theorem joins {last : UsageWindow} {earlier : List UsageWindow}
    (hdivides : Divides length (last :: earlier) usages)
    (hcovers : last.covers length usage.time = true) :
    Divides length ({ last with later := last.later ++ [usage] } :: earlier)
      (usages ++ [usage]) where
  all := by
    rw [← hdivides.all, List.reverse_cons, List.reverse_cons, List.flatMap_append,
      List.flatMap_append, List.append_assoc]
    simp only [UsageWindow.usages, List.flatMap_cons, List.flatMap_nil, List.append_nil,
      List.cons_append]
  within window hwindow other hother := by
    rcases List.mem_cons.mp hwindow with rfl | hold
    · rcases List.mem_append.mp (show other ∈ last.usages ++ [usage] from hother) with
        hearlier | hnewest
      · exact hdivides.within last List.mem_cons_self other hearlier
      · rw [List.mem_singleton.mp hnewest]
        exact hcovers
    · exact hdivides.within window (List.mem_cons_of_mem last hold) other hother
  apart := List.pairwise_cons.mpr (List.pairwise_cons.mp hdivides.apart)

/-- The last use goes where its time says. -/
theorem enter (hdivides : Divides length windows usages) (hlength : 0 < length)
    (hlast : ∀ earlier ∈ usages, earlier.time ≤ usage.time) :
    Divides length (enter length windows usage) (usages ++ [usage]) := by
  cases windows with
  | nil => exact hdivides.opens hlength fun _ hwindow => absurd hwindow List.not_mem_nil
  | cons last earlier =>
      rw [UsageWindow.enter]
      by_cases hover : last.isOver length usage.time = true
      · rw [if_pos hover]
        exact hdivides.opens hlength fun _ hwindow => hdivides.isOver_of_last hlast hover hwindow
      · rw [if_neg hover]
        exact hdivides.joins (covers_iff.mpr ⟨hdivides.first_le hlast List.mem_cons_self, hover⟩)

/-- Once all uses have happened, a time lies in the last window or in none. -/
theorem find?_covers (hdivides : Divides length windows usages)
    (hnow : ∀ usage ∈ usages, usage.time ≤ now) :
    ((windows.find? fun window => window.covers length now).map UsageWindow.usages).getD [] =
      openAt length now windows := by
  cases windows with
  | nil => rfl
  | cons last earlier =>
      rw [openAt, List.find?_cons]
      by_cases hover : last.isOver length now = true
      · have hlast : last.covers length now = false := by
          rw [covers, hover]
          exact Bool.and_false _
        have hnone : earlier.find? (fun window => window.covers length now) = none := by
          refine List.find?_eq_none.mpr fun window hwindow hcovers => (covers_iff.mp hcovers).2 ?_
          exact hdivides.isOver_of_last hnow hover (List.mem_cons_of_mem last hwindow)
        rw [if_pos hover, hlast, hnone]
        rfl
      · have hlast : last.covers length now = true :=
          covers_iff.mpr ⟨hdivides.first_le hnow List.mem_cons_self, hover⟩
        rw [if_neg hover, hlast]
        rfl

end Divides

/-- Uses in the order of their times are divided by their windows. -/
theorem usageWindows_divides (hlength : 0 < length)
    (hordered : (usages.map Usage.time).Pairwise (· ≤ ·)) :
    Divides length (usageWindows length usages) usages := by
  induction usages using List.reverseRecOn with
  | nil =>
      exact ⟨rfl, fun _ hwindow => absurd hwindow List.not_mem_nil, .nil⟩
  | append_singleton usages usage ih =>
      rw [List.map_append, List.pairwise_append] at hordered
      obtain ⟨hearlier, -, hlast⟩ := hordered
      rw [usageWindows_append_singleton]
      exact (ih hearlier).enter hlength fun earlier hmem =>
        hlast _ (List.mem_map_of_mem hmem) _ List.mem_cons_self

end ProviderRouting
