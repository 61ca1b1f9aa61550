import Mathlib.Algebra.BigOperators.Group.List.Basic
import Mathlib.Algebra.Order.Ring.Nat
import Mathlib.Data.List.Count
import Mathlib.Data.List.Induction
import Mathlib.Data.Set.Function
import ProviderRouting.Engine.Select
import ProviderRouting.Metrics
import ProviderRouting.Proofs.ProviderKey
import ProviderRouting.Proofs.Table

/-!
# What metrics show

A value is found by the digest of its labels written one after the other, so labels with one digest
share one value, which is shown under those of them that came first.  Adding up what is shown under
some labels therefore counts right whenever labels with one digest are counted alike; and each of
the labels has its own count exactly if no two of them have the same digest.  A digest without
collisions on the labels leaves those that read the same one after the other.
-/

namespace ProviderRouting

/-! ## Labels that end apart -/

/-- No text of a label is the end of another one's. -/
def ApartAtEnd {Label : Type} (text : Label → String) : Prop :=
  ∀ one other, (text one).toList <:+ (text other).toList → one = other

/-- The last label is told by what all labels read. -/
theorem ApartAtEnd.eq_of_join {Label : Type} {text : Label → String} (hapart : ApartAtEnd text)
    {one other : Label} (earlier earlier' : List String)
    (hjoin : String.join (earlier ++ [text one]) = String.join (earlier' ++ [text other])) :
    one = other := by
  simp only [String.join_append, String.join_cons, String.join_nil, String.append_empty] at hjoin
  have hone : (text one).toList <:+ (String.join earlier ++ text one).toList := by
    rw [String.toList_append]
    exact List.suffix_append ..
  have hother : (text other).toList <:+ (String.join earlier ++ text one).toList := by
    rw [hjoin, String.toList_append]
    exact List.suffix_append ..
  rcases List.suffix_or_suffix_of_suffix hone hother with hsuffix | hsuffix
  · exact hapart one other hsuffix
  · exact (hapart other one hsuffix).symm

theorem ApartAtEnd.eq_iff {Label : Type} {text : Label → String} (hapart : ApartAtEnd text)
    {one other : Label} : text one = text other ↔ one = other :=
  ⟨fun hsame => hapart one other (hsame ▸ List.suffix_rfl), congrArg text⟩

theorem SelectionStage.label_apart : ApartAtEnd SelectionStage.label := by
  intro one other
  cases one <;> cases other <;> decide

theorem ErrorClass.label_apart : ApartAtEnd ErrorClass.label := by
  intro one other
  cases one <;> cases other <;> decide

theorem PoolReason.label_apart : ApartAtEnd PoolReason.label := by
  intro one other
  cases one <;> cases other <;> decide

namespace MetricFamily

variable {family : MetricFamily} {labels probe : List String} {allowed : Set (List String)}
  {change : Nat → Nat} {among : List String → Bool} {taken : List (List String)}
  {digest : String → UInt64}

/-! ## Shown values -/

/-- The sum of the values that are shown under some of the labels. -/
def total (family : MetricFamily) (among : List String → Bool) : Nat :=
  ((family.values.rows.filter fun row => among row.2.labels).map fun row => row.2.value).sum

/-- The value that is shown under the labels, zero if none is. -/
def value (family : MetricFamily) (labels : List String) : Nat :=
  family.total (· == labels)

def found (family : MetricFamily) (labels : List String) : Labelled :=
  (family.values.get? (family.name labels)).getD ⟨labels, 0⟩

def others (family : MetricFamily) (labels : List String) : MetricFamily :=
  { family with values := family.values.erase (family.name labels) }

theorem total_insert (family : MetricFamily) (among : List String → Bool)
    (labels : List String) (shown : Labelled) :
    total { family with values := family.values.insert (family.name labels) shown } among =
      (family.others labels).total among + if among shown.labels then shown.value else 0 := by
  have hperm := family.values.rows_insert_perm (family.name labels) shown
  rw [total, total, ((hperm.filter _).map _).sum_eq, List.filter_cons, others]
  split
  · rw [List.map_cons, List.sum_cons, Nat.add_comm]
  · rw [Nat.add_zero]

theorem total_eq (family : MetricFamily) (among : List String → Bool) (labels : List String) :
    family.total among = (family.others labels).total among +
      if among (family.found labels).labels then (family.found labels).value else 0 := by
  rw [found]
  cases hfound : family.values.get? (family.name labels) with
  | none =>
      rw [others, Table.erase_of_get?_eq_none hfound, Option.getD_none, ite_self, Nat.add_zero]
  | some shown =>
      rw [Option.getD_some, ← total_insert, Table.insert_of_get?_eq_some hfound]

/-- A change shows in the sums over the labels that the changed value is shown under. -/
theorem total_update (family : MetricFamily) (among : List String → Bool) (labels : List String)
    (change : Nat → Nat) :
    (family.update labels change).total among = (family.others labels).total among +
      if among (family.found labels).labels then change (family.found labels).value else 0 :=
  total_insert family among labels _

/-! ## The labels that values are shown under -/

/-- Values are shown under allowed labels, each of which finds its value. -/
def Within (family : MetricFamily) (allowed : Set (List String)) : Prop :=
  ∀ row ∈ family.values.rows, row.1 = family.name row.2.labels ∧ row.2.labels ∈ allowed

theorem within_empty (digest : String → UInt64) : Within { digest } allowed :=
  fun _ hrow => absurd hrow List.not_mem_nil

/-- What labels find is shown under labels that find it too. -/
theorem Within.found (hwithin : family.Within allowed) (hlabels : labels ∈ allowed) :
    family.name labels = family.name (family.found labels).labels ∧
      (family.found labels).labels ∈ allowed := by
  rw [MetricFamily.found]
  cases hfound : family.values.get? (family.name labels) with
  | none => exact ⟨rfl, hlabels⟩
  | some shown => exact hwithin _ (Table.get?_eq_some_iff.mp hfound)

theorem Within.update (hwithin : family.Within allowed) (hlabels : labels ∈ allowed)
    (change : Nat → Nat) : (family.update labels change).Within allowed := by
  rintro ⟨name, shown⟩ hrow
  have hget := Table.get?_eq_some_iff.mpr hrow
  rw [MetricFamily.update, Table.get?_insert] at hget
  split_ifs at hget with hname
  · cases hget
    obtain ⟨hsame, hallowed⟩ := hwithin.found hlabels
    exact ⟨hname.trans hsame, hallowed⟩
  · exact hwithin _ (Table.get?_eq_some_iff.mp hget)

/-- No other value is shown under labels that are found. -/
theorem Within.others_value (hwithin : family.Within allowed) (labels : List String) :
    (family.others labels).value labels = 0 := by
  rw [value, total, List.filter_eq_nil_iff.mpr]
  · rfl
  rintro ⟨name, shown⟩ hrow hshown
  rw [others, ← Table.get?_eq_some_iff, Table.get?_erase] at hrow
  split_ifs at hrow with hname
  have hfinds := (hwithin _ (Table.get?_eq_some_iff.mp hrow)).1
  rw [eq_of_beq hshown] at hfinds
  exact hname hfinds

theorem Within.value_eq (hwithin : family.Within allowed) (labels : List String) :
    family.value labels =
      if (family.found labels).labels = labels then (family.found labels).value else 0 := by
  have hothers := hwithin.others_value labels
  rw [value] at hothers ⊢
  rw [total_eq, hothers, Nat.zero_add]
  simp only [beq_iff_eq]

/-- Where allowed labels have different digests, each has its own value. -/
theorem Within.value_update (hwithin : family.Within allowed)
    (hinjective : Set.InjOn family.name allowed) (hlabels : labels ∈ allowed)
    (change : Nat → Nat) (probe : List String) :
    (family.update labels change).value probe =
      if probe = labels then change (family.value labels) else family.value probe := by
  obtain ⟨hsame, hallowed⟩ := hwithin.found hlabels
  have hshown : (family.found labels).labels = labels :=
    (hinjective hlabels hallowed hsame).symm
  by_cases hprobe : probe = labels
  · have hothers := hwithin.others_value labels
    rw [if_pos hprobe, hprobe, hwithin.value_eq, if_pos hshown]
    rw [value] at hothers ⊢
    rw [total_update, hothers, hshown, if_pos (beq_self_eq_true labels), Nat.zero_add]
  · have hdiffer : (labels == probe) ≠ true := fun hsame => hprobe (eq_of_beq hsame).symm
    rw [if_neg hprobe, value, value, total_update, total_eq family _ labels, hshown,
      if_neg hdiffer, if_neg hdiffer]

/-! ## Counts -/

def tally (digest : String → UInt64) (taken : List (List String)) : MetricFamily :=
  taken.foldl add { digest }

theorem tally_append_singleton (digest : String → UInt64) (taken : List (List String))
    (labels : List String) :
    tally digest (taken ++ [labels]) = (tally digest taken).add labels := by
  rw [tally, List.foldl_append]
  rfl

theorem tally_digest (digest : String → UInt64) (taken : List (List String)) :
    (tally digest taken).digest = digest := by
  induction taken using List.reverseRecOn with
  | nil => rfl
  | append_singleton earlier labels ih =>
      rw [tally_append_singleton]
      exact ih

theorem name_tally (digest : String → UInt64) (taken : List (List String)) (labels : List String) :
    (tally digest taken).name labels = digest (String.join labels) := by
  rw [name, tally_digest]

theorem tally_within (hallowed : ∀ labels ∈ taken, labels ∈ allowed) :
    (tally digest taken).Within allowed := by
  induction taken using List.reverseRecOn with
  | nil => exact within_empty digest
  | append_singleton earlier labels ih =>
      rw [List.forall_mem_append, List.forall_mem_singleton] at hallowed
      rw [tally_append_singleton]
      exact (ih hallowed.1).update hallowed.2 _

/-- Sums count right, if labels with one digest are summed up alike. -/
theorem tally_total (halike : ∀ one ∈ taken, ∀ other ∈ taken,
    digest (String.join one) = digest (String.join other) → among one = among other) :
    (tally digest taken).total among = taken.countP among := by
  induction taken using List.reverseRecOn with
  | nil => rfl
  | append_singleton earlier labels ih =>
      have hearlier (one : List String) (hone : one ∈ earlier) : one ∈ earlier ++ [labels] :=
        List.mem_append_left _ hone
      have hlabels : labels ∈ earlier ++ [labels] := List.mem_append_right _ List.mem_cons_self
      have hwithin : (tally digest earlier).Within {one | one ∈ earlier ++ [labels]} :=
        tally_within hearlier
      obtain ⟨hfinds, hmem⟩ := hwithin.found hlabels
      rw [name_tally, name_tally] at hfinds
      have hsame := halike labels hlabels _ hmem hfinds
      have hcount := ih fun one hone other hother =>
        halike one (hearlier one hone) other (hearlier other hother)
      rw [tally_append_singleton, add, total_update, List.countP_append, List.countP_singleton,
        ← hcount, total_eq (tally digest earlier) among labels, ← hsame]
      split_ifs <;> rfl

/-- Each of the labels has its own count if and only if no two of them have one digest. -/
theorem tally_value_iff :
    (∀ labels, (tally digest taken).value labels = taken.count labels) ↔
      Set.InjOn (fun labels => digest (String.join labels)) {labels | labels ∈ taken} := by
  constructor
  · intro hvalue one hone other hother hsame
    have hwithin : (tally digest taken).Within {labels | labels ∈ taken} := tally_within fun _ => id
    have hshown {labels : List String} (hlabels : labels ∈ taken) :
        ∃ shown, (tally digest taken).values.get? (digest (String.join labels)) = some shown ∧
          shown.labels = labels := by
      have hpos := List.count_pos_iff.mpr hlabels
      rw [← hvalue, hwithin.value_eq, found, name_tally] at hpos
      cases hfound : (tally digest taken).values.get? (digest (String.join labels)) with
      | none => simp [hfound] at hpos
      | some shown =>
          refine ⟨shown, rfl, ?_⟩
          by_contra hdiffer
          simp [hfound, hdiffer] at hpos
    obtain ⟨shown, hget, rfl⟩ := hshown hone
    obtain ⟨shown', hget', rfl⟩ := hshown hother
    dsimp only at hsame
    rw [hsame, hget'] at hget
    rw [Option.some.inj hget]
  · intro hinjective labels
    exact tally_total fun one hone other hother hsame => by rw [hinjective hone hother hsame]

/-! ## Digests without collisions -/

/-- Of the labels, those with one digest read the same. -/
def NoCollision (digest : String → UInt64) (taken : List (List String)) : Prop :=
  ∀ one ∈ taken, ∀ other ∈ taken,
    digest (String.join one) = digest (String.join other) → String.join one = String.join other

instance : Decidable (NoCollision digest taken) :=
  inferInstanceAs (Decidable (∀ one ∈ taken, ∀ other ∈ taken,
    digest (String.join one) = digest (String.join other) → String.join one = String.join other))

theorem NoCollision.injOn_iff (hdigest : NoCollision digest taken) :
    Set.InjOn (fun labels => digest (String.join labels)) {labels | labels ∈ taken} ↔
      Set.InjOn String.join {labels | labels ∈ taken} := by
  constructor
  · exact fun hinjective one hone other hother hjoin =>
      hinjective hone hother (congrArg digest hjoin)
  · exact fun hinjective one hone other hother hsame =>
      hinjective hone hother (hdigest one hone other hother hsame)

/-- A single label reads as it is. -/
theorem tally_singletons {names : List String} (hdigest : NoCollision digest (names.map ([·])))
    (name : String) : (tally digest (names.map ([·]))).value [name] = names.count name := by
  have hinjective : Set.InjOn String.join {labels | labels ∈ names.map ([·])} := by
    intro one hone other hother hjoin
    obtain ⟨first, -, rfl⟩ := List.mem_map.mp hone
    obtain ⟨second, -, rfl⟩ := List.mem_map.mp hother
    simpa using hjoin
  rw [tally_value_iff.mpr (hdigest.injOn_iff.mpr hinjective)]
  exact List.count_map_of_injective names _ (fun _ _ => List.head_eq_of_cons_eq) name

/-- Sums over a last label count right. -/
theorem tally_total_last {Label : Type} {text : Label → String} (hapart : ApartAtEnd text)
    (hdigest : NoCollision digest taken)
    (hlast : ∀ labels ∈ taken, ∃ earlier label, labels = earlier ++ [text label]) (label : Label) :
    (tally digest taken).total (·.getLast? == some (text label)) =
      taken.countP (·.getLast? == some (text label)) := by
  refine tally_total fun one hone other hother hsame => ?_
  have hjoin := hdigest one hone other hother hsame
  obtain ⟨earlier, first, rfl⟩ := hlast one hone
  obtain ⟨earlier', second, rfl⟩ := hlast other hother
  rw [hapart.eq_of_join earlier earlier' hjoin, List.getLast?_concat, List.getLast?_concat]

/-! ## Gauges -/

def judge (gauges : MetricFamily) (key : String) (reason : PoolReason) : MetricFamily :=
  Metrics.blockReasons.foldl
    (fun gauges candidate =>
      gauges.update [key, candidate.label] fun _ => if candidate = reason then 1 else 0) gauges

def gaugeLabels (keys : List String) : List (List String) :=
  keys.flatMap fun key => Metrics.blockReasons.map fun reason => [key, reason.label]

theorem mem_gaugeLabels {keys : List String} {key : String} (hkey : key ∈ keys)
    {reason : PoolReason} (hreason : reason ∈ Metrics.blockReasons) :
    [key, reason.label] ∈ gaugeLabels keys :=
  List.mem_flatMap.mpr ⟨key, hkey, List.mem_map_of_mem hreason⟩

theorem injOn_gaugeLabels (keys : List String) :
    Set.InjOn String.join {labels | labels ∈ gaugeLabels keys} := by
  intro one hone other hother hjoin
  obtain ⟨key, -, hone⟩ := List.mem_flatMap.mp hone
  obtain ⟨reason, -, rfl⟩ := List.mem_map.mp hone
  obtain ⟨key', -, hother⟩ := List.mem_flatMap.mp hother
  obtain ⟨reason', -, rfl⟩ := List.mem_map.mp hother
  obtain rfl : reason = reason' := PoolReason.label_apart.eq_of_join [key] [key'] hjoin
  have hkey : key = key' := by simpa using hjoin
  rw [hkey]

theorem judge_digest (family : MetricFamily) (key : String) (reason : PoolReason) :
    (family.judge key reason).digest = family.digest := by
  rw [judge]
  generalize Metrics.blockReasons = candidates
  induction candidates generalizing family with
  | nil => rfl
  | cons candidate rest ih => exact ih _

theorem Within.judge {keys : List String}
    (hwithin : family.Within {labels | labels ∈ gaugeLabels keys}) {key : String}
    (hkey : key ∈ keys) (reason : PoolReason) :
    (family.judge key reason).Within {labels | labels ∈ gaugeLabels keys} := by
  rw [MetricFamily.judge]
  have hlabels : ∀ candidate ∈ Metrics.blockReasons, [key, candidate.label] ∈ gaugeLabels keys :=
    fun _ => mem_gaugeLabels hkey
  generalize Metrics.blockReasons = candidates at hlabels
  induction candidates generalizing family with
  | nil => exact hwithin
  | cons candidate rest ih =>
      rw [List.forall_mem_cons] at hlabels
      exact ih (hwithin.update hlabels.1 _) hlabels.2

/-- Setting the gauges of a key for some reasons changes these gauges only. -/
theorem Within.value_foldl_update {keys : List String}
    (hwithin : family.Within {labels | labels ∈ gaugeLabels keys})
    (hinjective : Set.InjOn family.name {labels | labels ∈ gaugeLabels keys}) {key : String}
    (hkey : key ∈ keys) {candidates : List PoolReason}
    (hcandidates : ∀ candidate ∈ candidates, candidate ∈ Metrics.blockReasons) (probe : String)
    (reason gauged : PoolReason) :
    (candidates.foldl (fun gauges candidate => gauges.update [key, candidate.label]
      fun _ => if candidate = reason then 1 else 0) family).value [probe, gauged.label] =
      if probe = key ∧ gauged ∈ candidates then if gauged = reason then 1 else 0
      else family.value [probe, gauged.label] := by
  induction candidates generalizing family with
  | nil => simp
  | cons candidate rest ih =>
      rw [List.forall_mem_cons] at hcandidates
      have hallowed : [key, candidate.label] ∈ gaugeLabels keys :=
        mem_gaugeLabels hkey hcandidates.1
      have hlabels : [probe, gauged.label] = [key, candidate.label] ↔
          probe = key ∧ gauged = candidate := by
        simp only [List.cons.injEq, and_true, PoolReason.label_apart.eq_iff]
      rw [List.foldl_cons, ih (hwithin.update hallowed _) hinjective hcandidates.2,
        hwithin.value_update hinjective hallowed]
      simp only [hlabels, List.mem_cons]
      by_cases hprobe : probe = key
      · by_cases hcandidate : gauged = candidate
        · simp [hprobe, hcandidate]
        · simp [hprobe, hcandidate]
      · simp [hprobe]

/-- The gauges of a key are set to its reason, and other gauges stay. -/
theorem Within.value_judge {keys : List String}
    (hwithin : family.Within {labels | labels ∈ gaugeLabels keys})
    (hinjective : Set.InjOn family.name {labels | labels ∈ gaugeLabels keys}) {key : String}
    (hkey : key ∈ keys) (probe : String) (reason : PoolReason) {gauged : PoolReason}
    (hgauged : gauged ∈ Metrics.blockReasons) :
    (family.judge key reason).value [probe, gauged.label] =
      if probe = key then if gauged = reason then 1 else 0
      else family.value [probe, gauged.label] := by
  rw [MetricFamily.judge, hwithin.value_foldl_update hinjective hkey fun _ => id]
  simp only [hgauged, and_true]

def gauges (digest : String → UInt64) (judgements : List (ProviderKey × PoolReason)) :
    MetricFamily :=
  judgements.foldl (fun gauges judgement => gauges.judge judgement.1.text judgement.2) { digest }

theorem gauges_append_singleton (digest : String → UInt64)
    (judgements : List (ProviderKey × PoolReason)) (judgement : ProviderKey × PoolReason) :
    gauges digest (judgements ++ [judgement]) =
      (gauges digest judgements).judge judgement.1.text judgement.2 := by
  rw [gauges, List.foldl_append]
  rfl

theorem gauges_digest (digest : String → UInt64) (judgements : List (ProviderKey × PoolReason)) :
    (gauges digest judgements).digest = digest := by
  induction judgements using List.reverseRecOn with
  | nil => rfl
  | append_singleton earlier judgement ih => rw [gauges_append_singleton, judge_digest, ih]

theorem gauges_within {judgements : List (ProviderKey × PoolReason)} {keys : List String}
    (hkeys : ∀ judgement ∈ judgements, judgement.1.text ∈ keys) :
    (gauges digest judgements).Within {labels | labels ∈ gaugeLabels keys} := by
  induction judgements using List.reverseRecOn with
  | nil => exact within_empty digest
  | append_singleton earlier judgement ih =>
      rw [List.forall_mem_append, List.forall_mem_singleton] at hkeys
      rw [gauges_append_singleton]
      exact (ih hkeys.1).judge hkeys.2 judgement.2

/-- The gauge of a key that is one is that of the reason that the key was last judged with. -/
theorem gauges_value {judgements : List (ProviderKey × PoolReason)} {keys : List String}
    (hkeys : ∀ judgement ∈ judgements, judgement.1.text ∈ keys)
    (hdigest : NoCollision digest (gaugeLabels keys))
    (hnames : ∀ judgement ∈ judgements, judgement.1.WellFormed) {key : ProviderKey}
    (hkey : key.WellFormed) {reason : PoolReason} (hreason : reason ∈ Metrics.blockReasons) :
    (gauges digest judgements).value [key.text, reason.label] =
      if judgements.reverse.lookup key = some reason then 1 else 0 := by
  induction judgements using List.reverseRecOn with
  | nil => rfl
  | append_singleton earlier judgement ih =>
      rw [List.forall_mem_append, List.forall_mem_singleton] at hkeys hnames
      obtain ⟨judged, last⟩ := judgement
      have hinjective : Set.InjOn (gauges digest earlier).name
          {labels | labels ∈ gaugeLabels keys} := by
        have hnamed : (gauges digest earlier).name = fun labels => digest (String.join labels) := by
          funext labels
          rw [name, gauges_digest]
        rw [hnamed]
        exact hdigest.injOn_iff.mpr (injOn_gaugeLabels keys)
      have htext : key.text = judged.text ↔ key = judged :=
        ⟨hkey.eq_of_text hnames.2, congrArg _⟩
      rw [gauges_append_singleton,
        (gauges_within hkeys.1).value_judge hinjective hkeys.2 _ _ hreason, ih hkeys.1 hnames.1,
        List.reverse_concat, List.lookup_cons]
      by_cases hsame : key = judged
      · simp [hsame, eq_comm]
      · rw [beq_false_of_ne hsame, if_neg (mt htext.mp hsame)]

end MetricFamily

end ProviderRouting
