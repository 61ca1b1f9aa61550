import ProviderRouting.Proofs.Table
import ProviderRouting.Series.Guard

/-!
# Ends that are only extended

A guard keeps two tables of ends: one for the series that cool down and one for the providers that
are avoided.  Either is only ever extended, but for ends that have passed and are pruned.  What
counts of a table at some time are the names whose end lies beyond that time.
-/

namespace ProviderRouting

variable {ends left right before after : Table String Millis} {name probe series : String}
  {now pruned first second finish time : Millis} {end? : Option Millis}

/-! ## The later of two ends -/

theorem le_elim_max {present : Millis} (hpresent : end? = some present) :
    present ≤ end?.elim time (max · time) := by
  rw [hpresent, Option.elim_some, Millis.le_iff, Millis.value_max]
  exact Int.le_max_left _ _

theorem lt_elim_max_iff :
    now < end?.elim time (max · time) ↔
      now < time ∨ ∃ finish, end? = some finish ∧ now < finish := by
  cases end? with
  | none => simp
  | some finish =>
      simp only [Option.elim_some, Option.some.injEq, exists_eq_left', Millis.lt_iff,
        Millis.value_max]
      omega

/-! ## Tables that go on -/

/-- Every name keeps its end or gets a later one. -/
def Prolonged (before after : Table String Millis) : Prop :=
  ∀ name finish, before.get? name = some finish →
    ∃ later, after.get? name = some later ∧ finish ≤ later

/-- Some name has an end that is no earlier. -/
def Covers (ends : Table String Millis) (finish : Millis) : Prop :=
  ∃ name later, ends.get? name = some later ∧ finish ≤ later

theorem Covers.prolonged (hcovers : Covers before finish) (hprolonged : Prolonged before after) :
    Covers after finish := by
  obtain ⟨name, present, hpresent, hle⟩ := hcovers
  obtain ⟨later, hlater, hlonger⟩ := hprolonged name present hpresent
  exact ⟨name, later, hlater, Int.le_trans hle hlonger⟩

/-- The later of two ends is one of them. -/
theorem Covers.elim_max (hpresent : ∀ present, end? = some present → Covers ends present)
    (htime : Covers ends time) : Covers ends (end?.elim time (max · time)) := by
  cases end? with
  | none => exact htime
  | some present =>
      change Covers ends (if present ≤ time then time else present)
      split
      · exact htime
      · exact hpresent present rfl

/-! ## Ends beyond a time -/

def RunsBeyond (ends : Table String Millis) (name : String) (now : Millis) : Prop :=
  ∃ finish, ends.get? name = some finish ∧ now < finish

/-- From a time on, the same names have not ended. -/
def SameFrom (now : Millis) (left right : Table String Millis) : Prop :=
  ∀ name time, now ≤ time → (RunsBeyond left name time ↔ RunsBeyond right name time)

theorem SameFrom.symm (hsame : SameFrom now left right) : SameFrom now right left :=
  fun name time htime => (hsame name time htime).symm

theorem SameFrom.trans {middle : Table String Millis} (hfirst : SameFrom now left middle)
    (hsecond : SameFrom now middle right) : SameFrom now left right :=
  fun name time htime => (hfirst name time htime).trans (hsecond name time htime)

theorem SameFrom.mono (hsame : SameFrom first left right) (hle : first ≤ second) :
    SameFrom second left right :=
  fun name time htime => hsame name time (Int.le_trans hle htime)

/-- Pruning at one time and looking at another one is looking at the later of the two. -/
theorem runsBeyond_filter_iff :
    RunsBeyond (ends.filter fun _ finish => decide (pruned < finish)) name now ↔
      RunsBeyond ends name (max pruned now) := by
  simp only [RunsBeyond, Table.get?_filter, Option.filter_eq_some_iff, decide_eq_true_eq, and_assoc]
  refine exists_congr fun finish => and_congr_right fun _ => ?_
  rw [Millis.lt_iff, Millis.lt_iff, Millis.lt_iff, Millis.value_max]
  exact Int.max_lt.symm

theorem SameFrom.filter (hsame : SameFrom now left right) (pruned : Millis) :
    SameFrom now (left.filter fun _ finish => decide (pruned < finish))
      (right.filter fun _ finish => decide (pruned < finish)) := by
  intro name time htime
  rw [runsBeyond_filter_iff, runsBeyond_filter_iff]
  apply hsame
  rw [Millis.le_iff, Millis.value_max]
  exact Int.le_trans htime (Int.le_max_right _ _)

/-- Pruning keeps whatever ends later. -/
theorem sameFrom_filter (ends : Table String Millis) (now : Millis) :
    SameFrom now (ends.filter fun _ finish => decide (now < finish)) ends := by
  intro name time htime
  have hlater : max now time = time := by
    apply Millis.ext
    rw [Millis.value_max]
    exact Int.max_eq_right htime
  rw [runsBeyond_filter_iff, hlater]

namespace SeriesGuard

theorem get?_extend (ends : Table String Millis) (name probe : String) (time : Millis) :
    (extend ends name time).get? probe =
      if probe = name then some ((ends.get? name).elim time (max · time)) else ends.get? probe :=
  Table.get?_insertWith ends max name probe time

theorem prolonged_extend (ends : Table String Millis) (name : String) (time : Millis) :
    Prolonged ends (extend ends name time) := by
  intro probe present hpresent
  rw [get?_extend]
  by_cases hprobe : probe = name
  · rw [if_pos hprobe]
    exact ⟨_, rfl, le_elim_max (hprobe ▸ hpresent)⟩
  · rw [if_neg hprobe]
    exact ⟨present, hpresent, Int.le_refl _⟩

theorem runsBeyond_extend_iff :
    RunsBeyond (extend ends name time) probe now ↔
      probe = name ∧ now < time ∨ RunsBeyond ends probe now := by
  rw [RunsBeyond, get?_extend]
  by_cases hprobe : probe = name
  · simp only [hprobe, if_true, Option.some.injEq, exists_eq_left', lt_elim_max_iff, true_and,
      RunsBeyond]
  · rw [if_neg hprobe]
    exact (or_iff_right fun hopen => hprobe hopen.1).symm

theorem get?_resume (guard : SeriesGuard) (cooldowns : Table String Millis) (series : String) :
    (guard.resume cooldowns).cooldowns.get? series =
      (cooldowns.get? series).elim (guard.cooldowns.get? series) fun finish =>
        some ((guard.cooldowns.get? series).elim finish (max · finish)) :=
  Table.get?_foldl_insertWith max guard.cooldowns cooldowns series

theorem prolonged_resume (guard : SeriesGuard) (cooldowns : Table String Millis) :
    Prolonged guard.cooldowns (guard.resume cooldowns).cooldowns := by
  intro name present hpresent
  rw [get?_resume]
  cases cooldowns.get? name with
  | none => exact ⟨present, hpresent, Int.le_refl _⟩
  | some taken => exact ⟨_, rfl, le_elim_max hpresent⟩

theorem runsBeyond_resume_iff {guard : SeriesGuard} {cooldowns : Table String Millis} :
    RunsBeyond (guard.resume cooldowns).cooldowns series now ↔
      RunsBeyond cooldowns series now ∨ RunsBeyond guard.cooldowns series now := by
  rw [RunsBeyond, get?_resume, RunsBeyond]
  cases cooldowns.get? series with
  | none => simp [RunsBeyond]
  | some taken =>
      simp only [Option.elim_some, Option.some.injEq, exists_eq_left', lt_elim_max_iff, RunsBeyond]

end SeriesGuard

/-- Tables that are alike stay so if they are extended by times that are alike. -/
theorem SameFrom.extend (hsame : SameFrom now left right) (name : String)
    (htimes : ∀ time, now ≤ time → (time < first ↔ time < second)) :
    SameFrom now (SeriesGuard.extend left name first) (SeriesGuard.extend right name second) := by
  intro probe time htime
  rw [SeriesGuard.runsBeyond_extend_iff, SeriesGuard.runsBeyond_extend_iff, htimes time htime,
    hsame probe time htime]

end ProviderRouting
