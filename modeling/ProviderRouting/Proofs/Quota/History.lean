import ProviderRouting.Proofs.Quota.Windows
import Mathlib.Data.List.Induction
import Mathlib.Order.Bounds.Defs

/-!
# The errors behind an entry's counts

An entry keeps two counts of errors, and the class and the time of the last one to count on
from.  This module says what the counts mean in terms of everything that ever happened to the
ledger: one counts the errors since the key's last success or reset, the other the longest run of
them, back from the last, that have its class and follow each other within the series window.
-/

namespace ProviderRouting

inductive LedgerEvent where
  | error (event : ErrorEvent)
  | success (event : SuccessEvent)
  | usage (key : ProviderKey) (tokens : UInt64) (time : Millis)
  | report (report : QuotaReport) (time : Millis)
  | static (key : ProviderKey) (limits : Option UsageLimits) (priorityTier : Option UInt32)
  | clear (key : ProviderKey) (time : Millis)

namespace LedgerEvent

def errorOn? (key : ProviderKey) : LedgerEvent → Option ErrorEvent
  | .error event => if event.key = key then some event else none
  | _ => none

def forgives (key : ProviderKey) : LedgerEvent → Bool
  | .success event => decide (event.key = key)
  | .clear other _ => decide (other = key)
  | _ => false

end LedgerEvent

/-- The errors of a key since its last success or reset, the last one first. -/
def errorsSince (key : ProviderKey) (history : List LedgerEvent) : List ErrorEvent :=
  (history.reverse.takeWhile fun event => !event.forgives key).filterMap (·.errorOn? key)

/-- The last event ends, lengthens or leaves the errors that count. -/
theorem errorsSince_append_singleton (key : ProviderKey) (history : List LedgerEvent)
    (event : LedgerEvent) :
    errorsSince key (history ++ [event]) =
      if event.forgives key then [] else
        (event.errorOn? key).toList ++ errorsSince key history := by
  rw [errorsSince, List.reverse_append, List.reverse_singleton, List.singleton_append,
    List.takeWhile_cons]
  cases event.forgives key with
  | true => rfl
  | false =>
      cases hevent : event.errorOn? key with
      | none => simp [errorsSince, hevent]
      | some error => simp [errorsSince, hevent]

/-! ## Series -/

/-- An error follows an earlier one closely and has its class. -/
def ErrorEvent.Follows (window : Millis) (later earlier : ErrorEvent) : Prop :=
  earlier.errorClass = later.errorClass ∧ later.time.since earlier.time ≤ window

instance (window : Millis) (later earlier : ErrorEvent) :
    Decidable (later.Follows window earlier) :=
  inferInstanceAs (Decidable (_ ∧ _))

/-- Errors, the last one first, that all have a class and follow each other within a window. -/
structure SameSeries (window : Millis) (errorClass : ErrorClass) (errors : List ErrorEvent) :
    Prop where
  same_class : ∀ error ∈ errors, error.errorClass = errorClass
  close : errors.IsChain fun later earlier => later.time.since earlier.time ≤ window

/-- How many errors, back from the last, follow each other. -/
def seriesLength (window : Millis) : List ErrorEvent → Nat
  | [] => 0
  | [_] => 1
  | last :: earlier :: rest =>
      if last.Follows window earlier then seriesLength window (earlier :: rest) + 1 else 1

variable {window : Millis} {errorClass : ErrorClass} {last earlier : ErrorEvent}
  {rest errors : List ErrorEvent}

theorem seriesLength_le_length (window : Millis) (errors : List ErrorEvent) :
    seriesLength window errors ≤ errors.length := by
  induction errors using seriesLength.induct window with
  | case1 => exact Nat.le_refl 0
  | case2 last => exact Nat.le_refl 1
  | case3 last earlier rest hfollows ih =>
      rw [seriesLength, if_pos hfollows]
      exact Nat.succ_le_succ ih
  | case4 last earlier rest hfollows =>
      rw [seriesLength, if_neg hfollows]
      exact Nat.succ_le_succ (Nat.zero_le _)

/-- A series is a chain: each error only has to follow the next. -/
theorem SameSeries.cons_cons_iff :
    SameSeries window last.errorClass (last :: earlier :: rest) ↔
      last.Follows window earlier ∧
        SameSeries window earlier.errorClass (earlier :: rest) := by
  constructor
  · rintro ⟨hclass, hclose⟩
    obtain ⟨hfirst, hrest⟩ := List.isChain_cons_cons.mp hclose
    have hearlier : earlier.errorClass = last.errorClass := hclass earlier (by simp)
    refine ⟨⟨hearlier, hfirst⟩, fun error herror => ?_, hrest⟩
    rw [hearlier]
    exact hclass error (List.mem_cons_of_mem last herror)
  · rintro ⟨⟨hearlier, hfirst⟩, hclass, hclose⟩
    refine ⟨fun error herror => ?_, List.isChain_cons_cons.mpr ⟨hfirst, hclose⟩⟩
    rcases List.mem_cons.mp herror with rfl | hrest
    · rfl
    · rw [← hearlier]
      exact hclass error hrest

theorem SameSeries.nil (window : Millis) (errorClass : ErrorClass) :
    SameSeries window errorClass [] :=
  ⟨fun _ herror => absurd herror List.not_mem_nil, .nil⟩

theorem SameSeries.singleton (window : Millis) (last : ErrorEvent) :
    SameSeries window last.errorClass [last] :=
  ⟨fun _ herror => by rw [List.mem_singleton.mp herror], .singleton last⟩

theorem seriesLength_pos (window : Millis) (last : ErrorEvent) (rest : List ErrorEvent) :
    0 < seriesLength window (last :: rest) := by
  cases rest with
  | nil => exact Nat.one_pos
  | cons earlier rest =>
      rw [seriesLength]
      split
      · exact Nat.succ_pos _
      · exact Nat.one_pos

/-- The first so many errors are one series as long as they are no more than its length. -/
theorem sameSeries_take_iff {count : Nat} (hcount : count ≤ (last :: rest).length) :
    SameSeries window last.errorClass ((last :: rest).take count) ↔
      count ≤ seriesLength window (last :: rest) := by
  -- Two errors at a time, as a series is decided by each error and the one before.
  induction count generalizing last rest with
  | zero => exact iff_of_true (.nil window last.errorClass) (Nat.zero_le _)
  | succ count ih =>
      cases count with
      | zero => exact iff_of_true (.singleton window last) (seriesLength_pos window last rest)
      | succ count =>
          cases rest with
          | nil => exact absurd (Nat.le_of_succ_le_succ hcount) (Nat.not_succ_le_zero count)
          | cons earlier rest =>
              rw [List.take_succ_cons, List.take_succ_cons, SameSeries.cons_cons_iff,
                ← List.take_succ_cons, ih (Nat.le_of_succ_le_succ hcount), seriesLength]
              by_cases hfollows : last.Follows window earlier
              · rw [if_pos hfollows, Nat.succ_le_succ_iff]
                exact and_iff_right hfollows
              · rw [if_neg hfollows]
                exact iff_of_false (fun hboth => hfollows hboth.1) (by omega)

/-- A number of errors is that of the longest series, back from the last error. -/
def LongestSeries (window : Millis) (errorClass : ErrorClass) (errors : List ErrorEvent) :
    Nat → Prop :=
  IsGreatest {count | count ≤ errors.length ∧ SameSeries window errorClass (errors.take count)}

theorem longestSeries_seriesLength (window : Millis) (last : ErrorEvent)
    (rest : List ErrorEvent) :
    LongestSeries window last.errorClass (last :: rest) (seriesLength window (last :: rest)) := by
  have hlength := seriesLength_le_length window (last :: rest)
  refine ⟨⟨hlength, (sameSeries_take_iff hlength).mpr (Nat.le_refl _)⟩, ?_⟩
  rintro count ⟨hcount, hseries⟩
  exact (sameSeries_take_iff hcount).mp hseries

end ProviderRouting
