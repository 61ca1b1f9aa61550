import ProviderRouting.Proofs.SnapshotStore

/-!
# The format of snapshots

A snapshot need not be written as this library writes it.  Members that hold a default may be
missing, limits may be spelled in either of two ways, and members of unknown names may stand
anywhere: all such documents stand for the same snapshot.  Only a limit that is spelled both ways
is refused, and with it the entry and the snapshot that it is part of.
-/

namespace ProviderRouting

namespace Decode

/-! ## Records written otherwise -/

/-- In what ways a record may be written otherwise than it is encoded. -/
structure RecordFormat where
  fields : List Field
  /-- The members that may be missing. -/
  defaults : List (String × Document) := []
  /-- The value of a field may be written as another document. -/
  Restates : String → Document → Document → Prop := fun _ document other => other = document

namespace RecordFormat

variable (format : RecordFormat)

/-- Some members are other members written otherwise. -/
inductive Rewrites : List (String × Document) → List (String × Document) → Prop
  | nil : Rewrites [] []
  /-- A field may be given under each of its names. -/
  | keep {name spelling : String} {document other : Document}
      {encoded given : List (String × Document)}
      (hname : (fieldOf format.fields spelling).map Field.name = some name)
      (hvalue : format.Restates name document other) (hrest : Rewrites encoded given) :
      Rewrites ((name, document) :: encoded) ((spelling, other) :: given)
  | drop {name : String} {document : Document} {encoded given : List (String × Document)}
      (hdefault : format.defaults.lookup name = some document)
      (hrest : Rewrites encoded given) : Rewrites ((name, document) :: encoded) given
  | add {name : String} {document : Document} {encoded given : List (String × Document)}
      (hunknown : fieldOf format.fields name = none) (hrest : Rewrites encoded given) :
      Rewrites encoded ((name, document) :: given)

/-- What is found of a field stands for what was encoded of it. -/
inductive StandsFor (name : String) : Option Document → Option Document → Prop
  | given {document other : Document} (hvalue : format.Restates name document other) :
      StandsFor name (some document) (some other)
  | missing {encoded? : Option Document}
      (hdefault : ∀ document ∈ encoded?, format.defaults.lookup name = some document) :
      StandsFor name encoded? none

variable {format : RecordFormat} {encoded given found : List (String × Document)}

/-- Nothing is found of a field that was not encoded. -/
theorem StandsFor.eq_none {name : String} {found? : Option Document}
    (hstands : format.StandsFor name none found?) : found? = none := by
  cases hstands
  rfl

/-- The fields of rewritten members are found, each standing for what was encoded. -/
theorem collect_of_rewrites (hrewrites : format.Rewrites encoded given)
    (hdistinct : (encoded.map Prod.fst).Nodup) :
    ∃ found, collect format.fields given = some found ∧
      ∀ name, format.StandsFor name (encoded.lookup name) (found.lookup name) := by
  induction hrewrites with
  | nil => exact ⟨[], rfl, fun name => .missing nofun⟩
  | @keep name spelling document other encoded given hname hvalue hrest ih =>
      rw [List.map_cons, List.nodup_cons] at hdistinct
      obtain ⟨found, hfound, hstands⟩ := ih hdistinct.2
      obtain ⟨field, hfield, rfl⟩ := Option.map_eq_some_iff.mp hname
      have hown := hstands field.name
      rw [lookup_eq_none_of_not_mem hdistinct.1] at hown
      refine ⟨(field.name, other) :: found, ?_, fun probe => ?_⟩
      · exact collect_cons_eq_some_iff.mpr ⟨found, hfound, .inr ⟨field, hfield, hown.eq_none, rfl⟩⟩
      · rw [List.lookup_cons, List.lookup_cons]
        cases hprobe : probe == field.name with
        | true =>
            obtain rfl := beq_iff_eq.mp hprobe
            exact .given hvalue
        | false => exact hstands probe
  | @drop name document encoded given hdefault hrest ih =>
      rw [List.map_cons, List.nodup_cons] at hdistinct
      obtain ⟨found, hfound, hstands⟩ := ih hdistinct.2
      have hown := hstands name
      rw [lookup_eq_none_of_not_mem hdistinct.1] at hown
      refine ⟨found, hfound, fun probe => ?_⟩
      rw [List.lookup_cons]
      cases hprobe : probe == name with
      | true =>
          obtain rfl := beq_iff_eq.mp hprobe
          rw [hown.eq_none]
          exact .missing fun _ hdropped => Option.some.inj hdropped ▸ hdefault
      | false => exact hstands probe
  | add hunknown hrest ih =>
      obtain ⟨found, hfound, hstands⟩ := ih hdistinct
      exact ⟨found, collect_cons_eq_some_iff.mpr ⟨found, hfound, .inl ⟨hunknown, rfl⟩⟩, hstands⟩

/-- A record and the same record written otherwise. -/
def RewritesRecord (format : RecordFormat) (document other : Document) : Prop :=
  ∃ encoded given, document = .fields encoded ∧ other = .fields given ∧
    format.Rewrites encoded given

section

variable {Value Result : Type} {name : String} {decode : Decoder Value} {default value : Value}
  {next other : Value → Option Result} {result : Result}

/-- A rewritten record is decoded alike, if its members are when they stand for each other. -/
theorem bind_record_of_rewrites {document rewritten : Document}
    {next : List (String × Document) → Option Result}
    (hrewrites : format.RewritesRecord document rewritten)
    (hrecord : ∀ {members}, document = .fields members →
      record format.fields document = some members)
    (hdecoded : (record format.fields document).bind next = some result)
    (hnext : ∀ encoded found,
      (∀ name, format.StandsFor name (encoded.lookup name) (found.lookup name)) →
        next encoded = some result → next found = some result) :
    (record format.fields rewritten).bind next = some result := by
  obtain ⟨encoded, given, rfl, rfl, hmembers⟩ := hrewrites
  have hencoded := hrecord rfl
  obtain ⟨found, hfound, hstands⟩ := collect_of_rewrites hmembers (nodup_collect hencoded)
  rw [hencoded] at hdecoded
  rw [record, hfound]
  exact hnext encoded found hstands hdecoded

/-- The value of a field is decoded alike, whichever document it is written as. -/
def DecodesAlike (format : RecordFormat) (name : String) (decode : Decoder Value) : Prop :=
  ∀ document restated value, format.Restates name document restated →
    decode document = some value → decode restated = some value

/-- It is, whatever the decoder, if the value may be written in one way only. -/
theorem decodesAlike_of_eq
    (heq : ∀ document restated, format.Restates name document restated → restated = document) :
    format.DecodesAlike name decode := by
  intro document restated value hrestates hdecode
  rw [heq document restated hrestates]
  exact hdecode

/-- What stands for a document is decoded alike, also if it is nothing. -/
theorem elim_of_standsFor {encoded? found? : Option Document} {absent : Option Value}
    (hstands : format.StandsFor name encoded? found?)
    (halike : format.DecodesAlike name decode)
    (hdefault : ∀ document, format.defaults.lookup name = some document →
      decode document = absent)
    (hencoded : encoded?.elim absent decode = some value) :
    found?.elim absent decode = some value := by
  cases hstands with
  | given hrestated => exact halike _ _ value hrestated hencoded
  | missing hmissing =>
      cases encoded? with
      | none => exact hencoded
      | some document => exact (hdefault document (hmissing document rfl)).symm.trans hencoded

/-- The value of a field is decoded alike, and so is the rest of the record if it goes on alike. -/
theorem bind_defaulted_of_standsFor
    (hstands : format.StandsFor name (encoded.lookup name) (found.lookup name))
    (halike : format.DecodesAlike name decode)
    (hdefault : ∀ document, format.defaults.lookup name = some document →
      decode document = some default)
    (hencoded : (defaulted encoded name decode default).bind next = some result)
    (hnext : ∀ value, next value = some result → other value = some result) :
    (defaulted found name decode default).bind other = some result := by
  have helim (given : List (String × Document)) : defaulted given name decode default =
      (given.lookup name).elim (some default) decode := by
    rw [defaulted]
    cases given.lookup name <;> rfl
  obtain ⟨value, hvalue, hrest⟩ := Option.bind_eq_some_iff.mp hencoded
  rw [helim] at hvalue
  rw [helim, elim_of_standsFor hstands halike hdefault hvalue]
  exact hnext value hrest

theorem bind_required_of_standsFor
    (hstands : format.StandsFor name (encoded.lookup name) (found.lookup name))
    (halike : format.DecodesAlike name decode)
    (hneeded : format.defaults.lookup name = none)
    (hencoded : (required encoded name decode).bind next = some result)
    (hnext : ∀ value, next value = some result → other value = some result) :
    (required found name decode).bind other = some result := by
  have helim (given : List (String × Document)) : required given name decode =
      (given.lookup name).elim none decode := by
    rw [required]
    cases given.lookup name <;> rfl
  have hdefault (document : Document) (hdropped : format.defaults.lookup name = some document) :
      decode document = none := by
    rw [hneeded] at hdropped
    cases hdropped
  obtain ⟨value, hvalue, hrest⟩ := Option.bind_eq_some_iff.mp hencoded
  rw [helim] at hvalue
  rw [helim, elim_of_standsFor hstands halike hdefault hvalue]
  exact hnext value hrest

end

end RecordFormat

end Decode

open Decode.RecordFormat

/-! ## Limits -/

namespace UsageLimits

/-- Limits have two names each.  None has a default to be written, for a limit that is not set is
never written. -/
def format : Decode.RecordFormat where
  fields := fieldNames

def IsWrittenAs (limits : UsageLimits) (document : Document) : Prop :=
  format.RewritesRecord limits.encode document

def SpellsTwice (document : Document) : Prop :=
  ∃ given, document = .fields given ∧ ∃ field ∈ fieldNames, ∃ spelling ∈ field.others,
    ∃ first second, (field.name, first) ∈ given ∧ (spelling, second) ∈ given

theorem decode_of_isWrittenAs {limits : UsageLimits} {document : Document}
    (hwritten : limits.IsWrittenAs document) : decode document = some limits := by
  refine bind_record_of_rewrites hwritten (record_encode limits) (decode_encode limits)
    fun encoded found hstands hdecoded => ?_
  have halike (name : String) : format.DecodesAlike name (Decode.optional Decode.uint64) :=
    decodesAlike_of_eq fun _ _ hrestated => hrestated
  have hkept (name : String) (document : Document)
      (hdropped : format.defaults.lookup name = some document) :
      Decode.optional Decode.uint64 document = some none := by
    cases hdropped
  iterate 3
    refine bind_defaulted_of_standsFor (hstands _) (halike _) (hkept _) hdecoded
      fun _ hdecoded => ?_
  exact hdecoded

/-- A limit's other name is another name of the same limit. -/
theorem fieldOf_spelling {field : Field} {spelling : String} (hfield : field ∈ fieldNames)
    (hspelling : spelling ∈ field.others) :
    field.name ≠ spelling ∧ Decode.fieldOf fieldNames field.name = some field ∧
      Decode.fieldOf fieldNames spelling = some field := by
  rw [fieldNames, List.mem_cons, List.mem_cons, List.mem_singleton] at hfield
  rcases hfield with rfl | rfl | rfl <;>
    rw [List.mem_singleton.mp hspelling] <;>
    exact ⟨by decide, rfl, rfl⟩

theorem decode_of_spellsTwice {document : Document} (htwice : SpellsTwice document) :
    decode document = none := by
  obtain ⟨given, rfl, field, hfield, spelling, hspelling, first, second, hfirst, hsecond⟩ := htwice
  obtain ⟨hne, hname, hother⟩ := fieldOf_spelling hfield hspelling
  have hnone : Decode.record fieldNames (.fields given) = none :=
    Decode.collect_eq_none hfirst hsecond (fun hsame => hne (congrArg Prod.fst hsame))
      ⟨field, hname, hother⟩
  rw [decode, hnone]
  rfl

end UsageLimits

/-! ## Entries -/

namespace QuotaEntry

/-- Every field of an entry has a default, and the limits may be written otherwise. -/
def format : Decode.RecordFormat where
  fields := fieldNames
  defaults := [("inPool", .bool true), ("reason", PoolReason.ok.encode),
    ("priorityTier", .int 100), ("cooldownUntilMs", .null), ("blacklistUntilMs", .null),
    ("fatal", .bool false), ("consecutiveErrorCount", .int 0), ("seriesErrorCount", .int 0),
    ("lastErrorAtMs", .null), ("lastErrorSeries", .null), ("selectionPenalty", .int 0),
    ("limits", .fields []), ("windowStartedAtMs", .null), ("windowRequests", .int 0),
    ("windowTokens", .int 0), ("totalTokensUsed", .int 0), ("externalRemainingFraction", .null),
    ("externalDepletedUntilMs", .null), ("updatedAtMs", .int 0)]
  Restates name document other := other = document ∨
    name = "limits" ∧ ∃ limits : UsageLimits, document = limits.encode ∧ limits.IsWrittenAs other

def IsWrittenAs (entry : QuotaEntry) (document : Document) : Prop :=
  format.RewritesRecord entry.encode document

def SpellsLimitTwice (document : Document) : Prop :=
  ∃ given limits, document = .fields given ∧ ("limits", limits) ∈ given ∧
    UsageLimits.SpellsTwice limits

section

variable {Value : Type} {encoded found : List (String × Document)} {name : String}
  {decode : Decoder Value} {default : Value} {next other : Value → Option QuotaEntry}
  {missing : Document} {entry : QuotaEntry}

/-- A field other than the limits is given as it is encoded, or not at all. -/
theorem bind_of_standsFor
    (hstands : format.StandsFor name (encoded.lookup name) (found.lookup name))
    (hmissing : format.defaults.lookup name = some missing)
    (hdefault : decode missing = some default) (hname : name ≠ "limits")
    (hencoded : (Decode.defaulted encoded name decode default).bind next = some entry)
    (hnext : ∀ value, next value = some entry → other value = some entry) :
    (Decode.defaulted found name decode default).bind other = some entry := by
  have halike : format.DecodesAlike name decode := by
    apply decodesAlike_of_eq
    rintro document restated (hsame | ⟨hlimits, -⟩)
    · exact hsame
    · exact absurd hlimits hname
  refine bind_defaulted_of_standsFor hstands halike (fun document hdropped => ?_) hencoded hnext
  rw [hmissing] at hdropped
  cases hdropped
  exact hdefault

end

theorem decode_of_isWrittenAs {entry : QuotaEntry} {document : Document}
    (hwritten : entry.IsWrittenAs document) : decode document = some entry := by
  have hlimits : format.DecodesAlike "limits" UsageLimits.decode := by
    rintro document restated value (rfl | ⟨-, limits, rfl, hwritten⟩) hdecode
    · exact hdecode
    · rw [UsageLimits.decode_encode] at hdecode
      cases hdecode
      exact UsageLimits.decode_of_isWrittenAs hwritten
  refine bind_record_of_rewrites hwritten (record_encode entry) (decode_encode entry)
    fun encoded found hstands hdecoded => ?_
  iterate 11
    refine bind_of_standsFor (hstands _) rfl rfl (by decide) hdecoded fun _ hdecoded => ?_
  refine bind_defaulted_of_standsFor (hstands _) hlimits ?_ hdecoded fun _ hdecoded => ?_
  · rintro _ ⟨⟩
    rfl
  iterate 7
    refine bind_of_standsFor (hstands _) rfl rfl (by decide) hdecoded fun _ hdecoded => ?_
  exact hdecoded

/-- An entry is refused with its limits, whatever else it says. -/
theorem decode_of_spellsLimitTwice {document : Document} (htwice : SpellsLimitTwice document) :
    decode document = none := by
  obtain ⟨given, limits, rfl, hlimits, htwice⟩ := htwice
  refine Decode.bind_record_eq_none hlimits rfl fun found hlookup => ?_
  have hnone : Decode.defaulted found "limits" UsageLimits.decode {} = none := by
    rw [Decode.defaulted, hlookup]
    exact UsageLimits.decode_of_spellsTwice htwice
  simp only [hnone, Option.bind_eq_bind, Option.bind_none, Option.bind_fun_none]

end QuotaEntry

/-! ## Snapshots -/

namespace Snapshot

/-- Only the cooldowns may be missing, if there are none, and entries may be written otherwise. -/
def format : Decode.RecordFormat where
  fields := fieldNames
  defaults := [("seriesCooldowns", .fields [])]
  Restates name document other := other = document ∨
    name = "providers" ∧ ∃ (rows : List (String × QuotaEntry)) (given : _),
      document = .fields (rows.map fun row => (row.1, row.2.encode)) ∧ other = .fields given ∧
        List.Forall₂ (fun row member => member.1 = row.1 ∧ row.2.IsWrittenAs member.2) rows given

def IsWrittenAs (snapshot : Snapshot) (document : Document) : Prop :=
  format.RewritesRecord snapshot.encode document

def SpellsLimitTwice (document : Document) : Prop :=
  ∃ given rows, document = .fields given ∧ ("providers", .fields rows) ∈ given ∧
    ∃ row ∈ rows, QuotaEntry.SpellsLimitTwice row.2

theorem decode_of_isWrittenAs {snapshot : Snapshot} {document : Document}
    (hwritten : snapshot.IsWrittenAs document) : decode document = some snapshot := by
  have hplain {Value : Type} {decode : Decoder Value} {name : String} (hname : name ≠ "providers") :
      format.DecodesAlike name decode := by
    apply decodesAlike_of_eq
    rintro document restated (hsame | ⟨hproviders, -⟩)
    · exact hsame
    · exact absurd hproviders hname
  have hproviders : format.DecodesAlike "providers" (Decode.members QuotaEntry.decode) := by
    rintro document restated value (rfl | ⟨-, rows, given, rfl, rfl, hrows⟩) hdecode
    · exact hdecode
    · rw [Decode.members_encoded QuotaEntry.decode_encode] at hdecode
      cases hdecode
      exact Decode.members_of_forall₂ (hrows.imp fun _ _ hrow =>
        ⟨hrow.1, QuotaEntry.decode_of_isWrittenAs hrow.2⟩)
  refine bind_record_of_rewrites hwritten (record_encode snapshot) (decode_encode snapshot)
    fun encoded found hstands hdecoded => ?_
  refine bind_required_of_standsFor (hstands _) (hplain (by decide)) rfl hdecoded
    fun _ hdecoded => ?_
  refine bind_required_of_standsFor (hstands _) (hplain (by decide)) rfl hdecoded
    fun _ hdecoded => ?_
  refine bind_required_of_standsFor (hstands _) hproviders rfl hdecoded fun _ hdecoded => ?_
  refine bind_defaulted_of_standsFor (hstands _) (hplain (by decide)) ?_ hdecoded
    fun _ hdecoded => hdecoded
  rintro _ ⟨⟩
  rfl

/-- A snapshot is refused with any of its entries. -/
theorem decode_of_spellsLimitTwice {document : Document} (htwice : SpellsLimitTwice document) :
    decode document = none := by
  obtain ⟨given, rows, rfl, hproviders, row, hrow, htwice⟩ := htwice
  refine Decode.bind_record_eq_none hproviders rfl fun found hlookup => ?_
  have hnone : Decode.required found "providers" (Decode.members QuotaEntry.decode) = none := by
    rw [Decode.required, hlookup]
    exact Decode.members_eq_none hrow (QuotaEntry.decode_of_spellsLimitTwice htwice)
  simp only [hnone, Option.bind_eq_bind, Option.bind_none, Option.bind_fun_none]

end Snapshot

/-! ## The format -/

/-- Values of some type are decoded from their own encodings and from all documents that they may
be written as, and documents that are spoilt are refused. -/
structure ReadsBack {Value : Type} (decode : Decoder Value) (encode : Value → Document)
    (isWrittenAs : Value → Document → Prop) (isSpoilt : Document → Prop) : Prop where
  encoded : ∀ value, decode (encode value) = some value
  written : ∀ value document, isWrittenAs value document → decode document = some value
  refused : ∀ document, isSpoilt document → decode document = none

/-- Snapshots, their entries and the limits of these are read back, however they are written; but
no limit may be given under both of its names. -/
theorem snapshots_read_back :
    ReadsBack UsageLimits.decode UsageLimits.encode UsageLimits.IsWrittenAs
        UsageLimits.SpellsTwice ∧
      ReadsBack QuotaEntry.decode QuotaEntry.encode QuotaEntry.IsWrittenAs
        QuotaEntry.SpellsLimitTwice ∧
      ReadsBack Snapshot.decode Snapshot.encode Snapshot.IsWrittenAs
        Snapshot.SpellsLimitTwice := by
  refine ⟨?_, ?_, ?_⟩
  · exact ⟨UsageLimits.decode_encode, fun _ _ => UsageLimits.decode_of_isWrittenAs,
      fun _ => UsageLimits.decode_of_spellsTwice⟩
  · exact ⟨QuotaEntry.decode_encode, fun _ _ => QuotaEntry.decode_of_isWrittenAs,
      fun _ => QuotaEntry.decode_of_spellsLimitTwice⟩
  · exact ⟨Snapshot.decode_encode, fun _ _ => Snapshot.decode_of_isWrittenAs,
      fun _ => Snapshot.decode_of_spellsLimitTwice⟩

/-- A snapshot that somebody wrote by hand. -/
example : (Snapshot.decode (.fields [("note", .null), ("version", .int 1), ("updatedAt", .int 7),
      ("providers", .fields [("north/a/large",
        .fields [("limits", .fields [("total_token_limit", .int 5)])])])])).map
    (fun snapshot => snapshot.providers.rows.map fun row => row.2.limits.totalTokens) =
      some [some 5] := by
  decide +kernel

end ProviderRouting
