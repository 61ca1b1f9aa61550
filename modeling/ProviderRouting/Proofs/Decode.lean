import ProviderRouting.Decode
import Mathlib.Data.List.Forall2
import Mathlib.Data.List.Pairwise

/-!
# Decoding what was encoded

A record is decoded from the members that it was encoded to: they are collected as they are, and
numbers come back as themselves.  What is collected has each field once, and a field that is given
twice is refused.
-/

namespace ProviderRouting.Decode

/-! ## What is collected of a record -/

section Collect

variable {fields : List Field} {field : Field} {given found : List (String × Document)}
  {member first second : String × Document}

/-- A member adds to what is found, if it is of a field that is not found yet. -/
theorem collect_cons_eq_some_iff :
    collect fields (member :: given) = some found ↔
      ∃ later, collect fields given = some later ∧
        (fieldOf fields member.1 = none ∧ found = later ∨
          ∃ field, fieldOf fields member.1 = some field ∧ later.lookup field.name = none ∧
            found = (field.name, member.2) :: later) := by
  rw [collect, Option.bind_eq_bind, Option.bind_eq_some_iff]
  refine exists_congr fun later => and_congr_right fun _ => ?_
  cases fieldOf fields member.1 with
  | none => simpa using eq_comm
  | some field =>
      simp only [Option.some.injEq, exists_eq_left', reduceCtorEq, false_and, false_or]
      generalize later.lookup field.name = known
      cases known with
      | none => simpa using eq_comm
      | some document => simp

theorem lookup_eq_none_of_not_mem {name : String} (hname : name ∉ given.map Prod.fst) :
    given.lookup name = none := by
  refine List.lookup_eq_none_iff.mpr fun member hmember => ?_
  rw [bne_iff_ne]
  intro hsame
  exact hname (List.mem_map.mpr ⟨member, hmember, hsame.symm⟩)

/-- Members under the names of fields, each at most once, are collected as they are. -/
theorem collect_eq_self
    (hknown : ∀ name ∈ given.map Prod.fst, (fieldOf fields name).map Field.name = some name)
    (hdistinct : (given.map Prod.fst).Nodup) : collect fields given = some given := by
  induction given with
  | nil => rfl
  | cons member rest ih =>
      obtain ⟨name, document⟩ := member
      rw [List.map_cons, List.forall_mem_cons] at hknown
      rw [List.map_cons, List.nodup_cons] at hdistinct
      obtain ⟨field, hfield, rfl⟩ := Option.map_eq_some_iff.mp hknown.1
      have hfresh := lookup_eq_none_of_not_mem hdistinct.1
      exact collect_cons_eq_some_iff.mpr
        ⟨rest, ih hknown.2 hdistinct.2, .inr ⟨field, hfield, hfresh, rfl⟩⟩

/-- A member of a field is found under the field's own name. -/
theorem lookup_collect (hfound : collect fields given = some found) (hmember : member ∈ given)
    (hfield : fieldOf fields member.1 = some field) :
    found.lookup field.name = some member.2 := by
  induction given generalizing found with
  | nil => exact absurd hmember List.not_mem_nil
  | cons head rest ih =>
      obtain ⟨later, hlater, hhead⟩ := collect_cons_eq_some_iff.mp hfound
      rcases List.mem_cons.mp hmember with rfl | hrest
      · rcases hhead with ⟨hnone, -⟩ | ⟨own, hown, -, rfl⟩
        · rw [hfield] at hnone
          cases hnone
        · rw [hfield] at hown
          cases hown
          exact List.lookup_cons_self
      · have hlookup := ih hlater hrest
        rcases hhead with ⟨-, rfl⟩ | ⟨other, -, hfresh, rfl⟩
        · exact hlookup
        · have hne : field.name ≠ other.name := by
            intro hsame
            rw [← hsame, hlookup] at hfresh
            cases hfresh
          rw [List.lookup_cons, beq_eq_false_iff_ne.mpr hne]
          exact hlookup

/-- What is found has each name once. -/
theorem nodup_collect (hfound : collect fields given = some found) :
    (found.map Prod.fst).Nodup := by
  induction given generalizing found with
  | nil =>
      cases hfound
      exact .nil
  | cons head rest ih =>
      obtain ⟨later, hlater, hhead⟩ := collect_cons_eq_some_iff.mp hfound
      rcases hhead with ⟨-, rfl⟩ | ⟨field, -, hfresh, rfl⟩
      · exact ih hlater
      · rw [List.map_cons, List.nodup_cons]
        refine ⟨fun hmem => ?_, ih hlater⟩
        obtain ⟨member, hmember, hname⟩ := List.mem_map.mp hmem
        have hne := List.lookup_eq_none_iff.mp hfresh member hmember
        exact bne_iff_ne.mp hne hname.symm

def SameField (fields : List Field) (first second : String × Document) : Prop :=
  ∃ field, fieldOf fields first.1 = some field ∧ fieldOf fields second.1 = some field

theorem SameField.symm (hsame : SameField fields first second) :
    SameField fields second first := by
  obtain ⟨field, hfirst, hsecond⟩ := hsame
  exact ⟨field, hsecond, hfirst⟩

/-- No two members are collected that are of one field. -/
theorem pairwise_of_collect (hfound : collect fields given = some found) :
    given.Pairwise fun first second => ¬ SameField fields first second := by
  induction given generalizing found with
  | nil => exact .nil
  | cons head rest ih =>
      obtain ⟨later, hlater, hhead⟩ := collect_cons_eq_some_iff.mp hfound
      refine List.pairwise_cons.mpr ⟨fun member hmember ⟨field, hfirst, hsecond⟩ => ?_, ih hlater⟩
      have hlookup := lookup_collect hlater hmember hsecond
      rcases hhead with ⟨hnone, -⟩ | ⟨own, hown, hfresh, -⟩
      · rw [hfirst] at hnone
        cases hnone
      · rw [hfirst] at hown
        cases hown
        rw [hlookup] at hfresh
        cases hfresh

/-- A field that is given twice is refused. -/
theorem collect_eq_none (hfirst : first ∈ given) (hsecond : second ∈ given)
    (hne : first ≠ second) (hsame : SameField fields first second) :
    collect fields given = none := by
  have hsymm : Std.Symm fun first second => ¬ SameField fields first second :=
    ⟨fun _ _ hapart hsame => hapart hsame.symm⟩
  refine Option.eq_none_iff_forall_ne_some.mpr fun found hfound => ?_
  exact (pairwise_of_collect hfound).forall hfirst hsecond hne hsame

/-- Whatever goes wrong with what is found of a member goes wrong with the record. -/
theorem bind_record_eq_none {Result : Type} {next : List (String × Document) → Option Result}
    (hmember : member ∈ given) (hfield : fieldOf fields member.1 = some field)
    (hnext : ∀ found, found.lookup field.name = some member.2 → next found = none) :
    (record fields (.fields given)).bind next = none := by
  rw [record]
  cases hfound : collect fields given with
  | none => rfl
  | some found => exact hnext found (lookup_collect hfound hmember hfield)

/-- A mapping is refused with any of its members. -/
theorem members_eq_none {Value : Type} {decode : Decoder Value} (hmember : member ∈ given)
    (hnone : decode member.2 = none) : members decode (.fields given) = none := by
  rw [members]
  induction given with
  | nil => exact absurd hmember List.not_mem_nil
  | cons head rest ih =>
      rw [List.mapM_cons]
      rcases List.mem_cons.mp hmember with rfl | hrest
      · simp [hnone]
      · simp [ih hrest]

end Collect

/-! ## Values -/

theorem millis_value (time : Millis) : millis (.int time.value) = some time := by
  simp [millis, int, Millis.ofInt?_value]

theorem uint32_toNat (number : UInt32) : uint32 (.int number.toNat) = some number := by
  have hbound := number.toNat_lt
  have hwithin : number.toNat ≤ 4294967295 := by omega
  have hnatural : natural (.int number.toNat) = some number.toNat := rfl
  simp [uint32, upTo, hnatural, Option.filter, hwithin]

theorem uint64_toNat (number : UInt64) : uint64 (.int number.toNat) = some number := by
  have hbound := number.toNat_lt
  have hwithin : number.toNat ≤ 18446744073709551615 := by omega
  have hnatural : natural (.int number.toNat) = some number.toNat := rfl
  simp [uint64, upTo, hnatural, Option.filter, hwithin]

/-! The decoding of a record goes on with the value of a field that is given. -/

section Given

variable {Value Result : Type} {given : List (String × Document)} {name : String}
  {document : Document} {decode : Decoder Value} {default value : Value}
  {next : Value → Option Result} {result : Option Result}

theorem bind_required (hgiven : given.lookup name = some document)
    (hdecode : decode document = some value) (hnext : next value = result) :
    (required given name decode).bind next = result := by
  have hrequired : required given name decode = some value := by
    rw [required, hgiven]
    exact hdecode
  rw [hrequired, Option.bind_some, hnext]

theorem bind_defaulted (hgiven : given.lookup name = some document)
    (hdecode : decode document = some value) (hnext : next value = result) :
    (defaulted given name decode default).bind next = result := by
  have hdefaulted : defaulted given name decode default = some value := by
    rw [defaulted, hgiven]
    exact hdecode
  rw [hdefaulted, Option.bind_some, hnext]

end Given

section Members

variable {Value : Type} {decode : Decoder Value} {encode : Value → Document}
  {rows : List (String × Value)} {given : List (String × Document)}

/-- A mapping with free names is decoded row by row. -/
theorem members_of_forall₂
    (hrows : List.Forall₂ (fun row member => member.1 = row.1 ∧ decode member.2 = some row.2)
      rows given) : members decode (.fields given) = some rows := by
  induction hrows with
  | nil => rfl
  | @cons row member rows given hrow hrest ih =>
      obtain ⟨name, document⟩ := member
      obtain ⟨rfl, hvalue⟩ := hrow
      simp only [members] at ih
      simp [members, hvalue, ih]

/-- Rows under free names are decoded as the values they were encoded from. -/
theorem members_encoded (hdecode : ∀ value, decode (encode value) = some value)
    (rows : List (String × Value)) :
    members decode (.fields (rows.map fun row => (row.1, encode row.2))) = some rows := by
  apply members_of_forall₂
  rw [List.forall₂_map_right_iff, List.forall₂_same]
  exact fun row _ => ⟨rfl, hdecode row.2⟩

end Members

end ProviderRouting.Decode
