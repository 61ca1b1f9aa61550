import ProviderRouting.Proofs.Files
import ProviderRouting.Proofs.Json.Reading
import ProviderRouting.Proofs.Quota.Encoding
import ProviderRouting.Proofs.Quota.Share
import ProviderRouting.Proofs.Snapshot
import ProviderRouting.SnapshotStore

/-!
# Snapshot files

The file of a snapshot is read as the same snapshot.  Only the shares that providers reported
may come back changed: a share is printed in decimals, and one that is not a number is lost.
-/

namespace ProviderRouting

/-! ## Numbers of limited width -/

theorem fitsInteger_millis (time : Millis) : Json.FitsInteger time.value :=
  ⟨time.least_le, time.le_greatest.trans (by decide)⟩

theorem fitsInteger_uint32 (number : UInt32) : Json.FitsInteger number.toNat := by
  have hbound := number.toNat_lt
  constructor <;> omega

theorem fitsInteger_uint64 (number : UInt64) : Json.FitsInteger number.toNat := by
  have hbound := number.toNat_lt
  constructor <;> omega

/-! ## Entries -/

namespace QuotaEntry

def shareOfText (share : Float) : Option Float :=
  match Json.parse? (Json.floatText share) with
  | some (.float value) => some value
  | _ => none

def reread (entry : QuotaEntry) : QuotaEntry :=
  { entry with remaining := entry.remaining.bind shareOfText }

/-- The share is between zero and one if it is a number. -/
def HasProperShare (entry : QuotaEntry) : Prop :=
  ∀ share ∈ entry.remaining, share.isFinite = true → Decimal.scaleOf share ≤ 1023

variable {entry : QuotaEntry}

theorem reread_share {share : Float}
    (hshare : share.isFinite = true → Decimal.scaleOf share ≤ 1023) :
    Json.reread (.float share) = .ofOption .float (shareOfText share) := by
  rw [Json.reread, shareOfText]
  rcases Json.scans_floatText hshare with ⟨double, hscans⟩ | hscans
  · have hscalar : (Json.Token.float double).scalar? = some (.float double) := rfl
    rw [Json.parse?_of_scans hscans hscalar]
    rfl
  · have hscalar : Json.Token.null.scalar? = some .null := rfl
    rw [Json.parse?_of_scans hscans hscalar]
    rfl

theorem reread_encodeTime (time : Option Millis) :
    Json.reread (encodeTime time) = encodeTime time := by
  cases time <;> rfl

theorem reread_encodeLimits (limits : UsageLimits) :
    Json.reread limits.encode = limits.encode := by
  obtain ⟨requests, tokens, totalTokens⟩ := limits
  cases requests <;> cases tokens <;> cases totalTokens <;> rfl

theorem isLegible_encodeLimits (limits : UsageLimits) : Json.IsLegible limits.encode := by
  obtain ⟨requests, tokens, totalTokens⟩ := limits
  cases requests <;> cases tokens <;> cases totalTokens <;>
    simp [UsageLimits.encode, UsageLimits.encodeLimit, Json.IsLegible, Json.MembersLegible,
      fitsInteger_uint64]

theorem reread_encode (hshare : entry.HasProperShare) :
    Json.reread entry.encode = entry.reread.encode := by
  have hclass : Json.reread (.ofOption ErrorClass.encode entry.lastErrorClass) =
      .ofOption ErrorClass.encode entry.lastErrorClass := by
    cases entry.lastErrorClass <;> rfl
  have hremaining : Json.reread (.ofOption .float entry.remaining) =
      .ofOption .float entry.reread.remaining := by
    rw [reread]
    cases hremaining : entry.remaining with
    | none => rfl
    | some share => exact reread_share (hshare share hremaining)
  rw [encode, Json.reread]
  simp only [Json.rereadMembers, reread_encodeTime, reread_encodeLimits, hclass, hremaining]
  rfl

/-- All counters of an entry fit into 64 bits. -/
theorem isLegible_encode (hshare : entry.HasProperShare) : Json.IsLegible entry.encode := by
  have htime (time : Option Millis) : Json.IsLegible (encodeTime time) := by
    cases time with
    | none => trivial
    | some time => exact fitsInteger_millis time
  have hclass : Json.IsLegible (.ofOption ErrorClass.encode entry.lastErrorClass) := by
    cases entry.lastErrorClass <;> trivial
  have hremaining : Json.IsLegible (.ofOption .float entry.remaining) := by
    cases hremaining : entry.remaining with
    | none => trivial
    | some share => exact hshare share hremaining
  refine Json.membersLegible_iff.mpr ?_
  simp only [List.forall_mem_cons, htime, hclass, hremaining, isLegible_encodeLimits]
  simp [Json.IsLegible, PoolReason.encode, fitsInteger_uint32, fitsInteger_uint64,
    fitsInteger_millis]

end QuotaEntry

/-! ## Snapshots -/

namespace Snapshot

variable {snapshot : Snapshot}

def reread (snapshot : Snapshot) : Snapshot :=
  { snapshot with providers := snapshot.providers.mapValues QuotaEntry.reread }

/-- An encoded snapshot has each of its fields once. -/
theorem record_encode (snapshot : Snapshot) {members : List (String × Document)}
    (hmembers : snapshot.encode = .fields members) :
    Decode.record fieldNames snapshot.encode = some members := by
  cases hmembers
  rfl

/-- Every snapshot is decoded from its own encoding. -/
theorem decode_encode (snapshot : Snapshot) : decode snapshot.encode = some snapshot := by
  rw [decode, record_encode snapshot rfl, Option.bind_eq_bind, Option.bind_some]
  refine Decode.bind_required rfl (Decode.uint32_toNat _) ?_
  refine Decode.bind_required rfl (Decode.millis_value _) ?_
  refine Decode.bind_required rfl (Decode.members_encoded QuotaEntry.decode_encode _) ?_
  refine Decode.bind_defaulted rfl (Decode.members_encoded Decode.millis_value _) ?_
  rw [Table.ofList_rows, Table.ofList_rows]

theorem reread_encode (hshares : ∀ row ∈ snapshot.providers.rows, row.2.HasProperShare) :
    Json.reread snapshot.encode = snapshot.reread.encode := by
  have hproviders : Json.rereadMembers
      (snapshot.providers.rows.map fun row => (row.1, row.2.encode)) =
        snapshot.reread.providers.rows.map fun row => (row.1, row.2.encode) := by
    rw [Json.rereadMembers_eq_map, reread, Table.mapValues, List.map_map, List.map_map]
    refine List.map_congr_left fun row hrow => ?_
    exact congrArg (row.1, ·) (QuotaEntry.reread_encode (hshares row hrow))
  have hcooldowns : Json.rereadMembers
      (snapshot.seriesCooldowns.rows.map fun row => (row.1, .int row.2.value)) =
        snapshot.seriesCooldowns.rows.map fun row => (row.1, .int row.2.value) := by
    rw [Json.rereadMembers_eq_map, List.map_map]
    rfl
  rw [encode, Json.reread]
  simp only [Json.rereadMembers, Json.reread, hproviders, hcooldowns]
  rfl

theorem isLegible_encode (hshares : ∀ row ∈ snapshot.providers.rows, row.2.HasProperShare) :
    Json.IsLegible snapshot.encode := by
  have hproviders : Json.MembersLegible
      (snapshot.providers.rows.map fun row => (row.1, row.2.encode)) := by
    rw [Json.membersLegible_iff, List.forall_mem_map]
    exact fun row hrow => QuotaEntry.isLegible_encode (hshares row hrow)
  have hcooldowns : Json.MembersLegible
      (snapshot.seriesCooldowns.rows.map fun row => (row.1, .int row.2.value)) := by
    rw [Json.membersLegible_iff, List.forall_mem_map]
    exact fun row _ => fitsInteger_millis row.2
  exact ⟨fitsInteger_uint32 snapshot.version, fitsInteger_millis snapshot.updatedAt, hproviders,
    hcooldowns, trivial⟩

/-- Reading the text of a snapshot gives the snapshot back, but for the shares. -/
theorem ofText?_fileText (hshares : ∀ row ∈ snapshot.providers.rows, row.2.HasProperShare) :
    ofText? snapshot.fileText = some snapshot.reread := by
  rw [ofText?, fileText, Json.parse?_pretty (isLegible_encode hshares), reread_encode hshares]
  exact decode_encode snapshot.reread

/-! ## Stores -/

/-- A write that fails leaves the file as it was, and one that succeeds leaves the snapshot. -/
theorem write_contents (files : Files) (path : String) (snapshot : Snapshot) :
    (∃ cause after, write files path snapshot = (.error cause, after) ∧
      after.contents.get? (.ofText path) = files.contents.get? (.ofText path)) ∨
    ∃ after, write files path snapshot = (.ok (), after) ∧
      after.contents.get? (.ofText path) = some snapshot.fileText := by
  rcases Replacement.run_contents files path [snapshot.fileText] with
    ⟨cause, after, hrun, hcontents⟩ | ⟨after, hrun, hcontents⟩
  · rw [write, hrun]
    exact .inl ⟨_, after, rfl, hcontents⟩
  · rw [String.join_cons, String.join_nil, String.append_empty] at hcontents
    rw [write, hrun]
    exact .inr ⟨after, rfl, hcontents⟩

end Snapshot

end ProviderRouting
