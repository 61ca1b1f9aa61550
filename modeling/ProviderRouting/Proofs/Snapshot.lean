import ProviderRouting.Proofs.ProviderKey
import ProviderRouting.Proofs.Computation
import ProviderRouting.Proofs.Table
import ProviderRouting.Snapshot

/-!
# Snapshots lose nothing

A snapshot keeps its entries under the texts of their keys.  Where all keys are well formed no two
of them share a text, so that reading the snapshot gives back the rows it was taken of.  What is
read from any snapshot, on the other hand, is under well-formed keys.
-/

namespace ProviderRouting

namespace Snapshot

variable {snapshot : Snapshot} {entries : Table ProviderKey QuotaEntry}
  {cooldowns : Table String Millis} {now : Millis} {rows : List (ProviderKey × QuotaEntry)}
  {row : ProviderKey × QuotaEntry}

/-- A row under the text of its key, as it stands in a snapshot. -/
def named (row : ProviderKey × QuotaEntry) : String × QuotaEntry :=
  (row.1.text, row.2)

theorem parseRow_eq_ok_iff {given : String × QuotaEntry} :
    parseRow given = .ok row ↔ ProviderKey.parse? given.1 = some row.1 ∧ given.2 = row.2 := by
  rw [parseRow]
  cases ProviderKey.parse? given.1 with
  | none => simp
  | some key => simp [Prod.ext_iff]

theorem parseRow_named (hkey : row.1.WellFormed) : parseRow (named row) = .ok row :=
  parseRow_eq_ok_iff.mpr ⟨ProviderKey.parse?_text hkey, rfl⟩

theorem named_injective {left right : ProviderKey × QuotaEntry} (hleft : left.1.WellFormed)
    (hright : right.1.WellFormed) (hnamed : named left = named right) : left = right := by
  obtain ⟨htext, hentry⟩ := Prod.ext_iff.mp hnamed
  exact Prod.ext (hleft.eq_of_text hright htext) hentry

/-- Whatever a snapshot holds, it is read under well-formed keys. -/
theorem wellFormed_of_entries (hread : snapshot.entries = .ok rows) (hrow : row ∈ rows) :
    row.1.WellFormed := by
  obtain ⟨given, -, hparsed⟩ := (mem_mapM_iff hread).mp hrow
  exact ProviderKey.wellFormed_of_parse? (parseRow_eq_ok_iff.mp hparsed).1

/-- The entry that a snapshot holds of a key.  It holds none of a key that no text names. -/
def held? (snapshot : Snapshot) (key : ProviderKey) : Option QuotaEntry :=
  if ProviderKey.parse? key.text = some key then snapshot.providers.get? key.text else none

/-- No two texts name the same key, so a snapshot holds at most one entry of each. -/
theorem held?_eq_some_iff {key : ProviderKey} {entry : QuotaEntry} :
    snapshot.held? key = some entry ↔
      ∃ text, ProviderKey.parse? text = some key ∧ (text, entry) ∈ snapshot.providers.rows := by
  rw [held?]
  constructor
  · intro hentry
    split at hentry
    · next hparse => exact ⟨key.text, hparse, Table.get?_eq_some_iff.mp hentry⟩
    · cases hentry
  · rintro ⟨text, hparse, hrow⟩
    obtain rfl := ProviderKey.text_of_parse? hparse
    rw [if_pos hparse]
    exact Table.get?_eq_some_iff.mpr hrow

/-- Reading a snapshot gives the entries that it holds. -/
theorem mem_entries_iff (hread : snapshot.entries = .ok rows) {key : ProviderKey}
    {entry : QuotaEntry} : (key, entry) ∈ rows ↔ snapshot.held? key = some entry := by
  rw [held?_eq_some_iff]
  refine (mem_mapM_iff hread).trans ?_
  simp only [parseRow_eq_ok_iff, Prod.exists]
  constructor
  · rintro ⟨text, stored, hrow, hparse, rfl⟩
    exact ⟨text, hparse, hrow⟩
  · rintro ⟨text, hparse, hrow⟩
    exact ⟨text, entry, hrow, hparse, rfl⟩

/-- Named rows of well-formed keys can all be parsed. -/
theorem mapM_parseRow {namedRows : List (String × QuotaEntry)}
    (hnamed : ∀ given ∈ namedRows, ∃ row, row.1.WellFormed ∧ given = named row) :
    ∃ rows, namedRows.mapM parseRow = .ok rows ∧ namedRows = rows.map named := by
  induction namedRows with
  | nil => exact ⟨[], rfl, rfl⟩
  | cons head rest ih =>
      obtain ⟨row, hkey, rfl⟩ := hnamed head List.mem_cons_self
      obtain ⟨rows, hrows, rfl⟩ := ih fun given hgiven =>
        hnamed given (List.mem_cons_of_mem _ hgiven)
      refine ⟨row :: rows, ?_, rfl⟩
      rw [List.mapM_cons, parseRow_named hkey, hrows]
      rfl

/-- A snapshot can be read when all its keys can. -/
theorem exists_entries_iff :
    (∃ rows, snapshot.entries = .ok rows) ↔
      ∀ text, snapshot.providers.contains text = true → (ProviderKey.parse? text).isSome = true := by
  have hparse (given : String × QuotaEntry) :
      (∃ row, parseRow given = .ok row) ↔ (ProviderKey.parse? given.1).isSome = true := by
    rw [parseRow]
    cases ProviderKey.parse? given.1 <;> simp
  refine exists_mapM_ok_iff.trans ?_
  simp only [hparse, Table.contains_iff, Prod.forall]
  exact forall_congr' fun text => ⟨fun hread ⟨entry, hrow⟩ => hread entry hrow,
    fun hread entry hrow => hread ⟨entry, hrow⟩⟩

/-- A snapshot has the texts of the keys it was taken of, and no others. -/
theorem contains_providers_iff {text : String} :
    (ofEntries now entries cooldowns).providers.contains text = true ↔
      ∃ key, entries.contains key = true ∧ text = key.text := by
  have hrows := foldl_iff (fun providers : Table String QuotaEntry => providers.contains text = true)
    (fun row : String × QuotaEntry => text = row.1)
    (fun providers row => Table.contains_insert_iff providers row.1 text row.2)
    (entries.rows.map named) ∅
  refine hrows.trans ((or_iff_left Bool.false_ne_true).trans ?_)
  constructor
  · rintro ⟨given, hgiven, rfl⟩
    obtain ⟨row, hrow, rfl⟩ := List.mem_map.mp hgiven
    exact ⟨row.1, Table.contains_iff.mpr ⟨row.2, hrow⟩, rfl⟩
  · rintro ⟨key, hkey, rfl⟩
    obtain ⟨entry, hrow⟩ := Table.contains_iff.mp hkey
    exact ⟨named (key, entry), List.mem_map_of_mem hrow, rfl⟩

/-- No two rows of a table of well-formed keys get the same name. -/
theorem mem_providers_iff (hkeys : ∀ row ∈ entries.rows, row.1.WellFormed)
    (hkey : row.1.WellFormed) :
    named row ∈ (ofEntries now entries cooldowns).providers.rows ↔ row ∈ entries.rows := by
  have hunique (text : String) (entry other : QuotaEntry)
      (hentry : (text, entry) ∈ entries.rows.map named)
      (hother : (text, other) ∈ entries.rows.map named) : other = entry := by
    obtain ⟨left, hleft, hleft_named⟩ := List.mem_map.mp hentry
    obtain ⟨right, hright, hright_named⟩ := List.mem_map.mp hother
    obtain ⟨hleft_text, rfl⟩ := Prod.ext_iff.mp hleft_named
    obtain ⟨hright_text, rfl⟩ := Prod.ext_iff.mp hright_named
    have hsame : left.1 = right.1 :=
      (hkeys left hleft).eq_of_text (hkeys right hright) (hleft_text.trans hright_text.symm)
    have hleft_found := Table.get?_eq_some_iff.mpr hleft
    have hright_found := Table.get?_eq_some_iff.mpr hright
    rw [hsame, hright_found] at hleft_found
    exact Option.some.inj hleft_found
  calc named row ∈ (ofEntries now entries cooldowns).providers.rows
      ↔ named row ∈ entries.rows.map named :=
        Table.mem_rows_ofList_iff (hunique row.1.text)
    _ ↔ row ∈ entries.rows := by
        rw [List.mem_map]
        constructor
        · rintro ⟨source, hsource, hnamed⟩
          exact named_injective (hkeys source hsource) hkey hnamed ▸ hsource
        · exact fun hrow => ⟨row, hrow, rfl⟩

/-- Reading a snapshot of well-formed keys gives the entries it was taken of. -/
theorem entries_ofEntries (hkeys : ∀ row ∈ entries.rows, row.1.WellFormed) :
    ∃ rows, (ofEntries now entries cooldowns).entries = .ok rows ∧
      ∀ row, row ∈ rows ↔ row ∈ entries.rows := by
  have hnamed : ∀ given ∈ (ofEntries now entries cooldowns).providers.rows,
      ∃ row, row.1.WellFormed ∧ given = named row := by
    intro given hgiven
    obtain ⟨row, hrow, hnamed⟩ :=
      List.mem_map.mp (Table.mem_of_get?_ofList (Table.get?_eq_some_iff.mpr hgiven))
    exact ⟨row, hkeys row hrow, hnamed.symm⟩
  obtain ⟨rows, hread, hrows⟩ := mapM_parseRow hnamed
  refine ⟨rows, hread, fun row => ?_⟩
  constructor
  · intro hrow
    have hprovider : named row ∈ (ofEntries now entries cooldowns).providers.rows := by
      rw [hrows]
      exact List.mem_map_of_mem hrow
    exact (mem_providers_iff hkeys (wellFormed_of_entries hread hrow)).mp hprovider
  · intro hrow
    have hprovider : named row ∈ (ofEntries now entries cooldowns).providers.rows :=
      (mem_providers_iff hkeys (hkeys row hrow)).mpr hrow
    rw [hrows] at hprovider
    obtain ⟨source, hsource, hsame⟩ := List.mem_map.mp hprovider
    have hwell_formed := wellFormed_of_entries hread hsource
    exact named_injective hwell_formed (hkeys row hrow) hsame ▸ hsource

end Snapshot

end ProviderRouting
