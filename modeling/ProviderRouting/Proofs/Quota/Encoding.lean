import ProviderRouting.Proofs.Decode
import ProviderRouting.Quota.Entry

/-!
# Encoded entries

Every entry is decoded from its own encoding, with all its fields.
-/

namespace ProviderRouting

theorem PoolReason.decode_encode (reason : PoolReason) : decode reason.encode = some reason :=
  ofLabel?_label reason

theorem ErrorClass.decode_encode (errorClass : ErrorClass) :
    decode errorClass.encode = some errorClass :=
  ofLabel?_label errorClass

namespace UsageLimits

theorem maybe_limit {given : List (String × Document)} {name : String} {limit : Option UInt64}
    (hgiven : given.lookup name = limit.map fun limit => .int limit.toNat) :
    Decode.maybe given name Decode.uint64 = some limit := by
  rw [Decode.maybe, Decode.defaulted, hgiven]
  cases limit with
  | none => rfl
  | some limit => exact congrArg (Option.map some) (Decode.uint64_toNat limit)

/-- Encoded limits have each of their fields at most once. -/
theorem record_encode (limits : UsageLimits) {members : List (String × Document)}
    (hmembers : limits.encode = .fields members) :
    Decode.record fieldNames limits.encode = some members := by
  obtain ⟨requests, tokens, totalTokens⟩ := limits
  cases hmembers
  cases requests <;> cases tokens <;> cases totalTokens <;> rfl

theorem decode_encode (limits : UsageLimits) : decode limits.encode = some limits := by
  obtain ⟨requests, tokens, totalTokens⟩ := limits
  let given := encodeLimit "rateLimitPerMinute" requests ++
    encodeLimit "tokenLimitPerMinute" tokens ++ encodeLimit "totalTokenLimit" totalTokens
  have hrecord : Decode.record fieldNames (.fields given) = some given :=
    record_encode ⟨requests, tokens, totalTokens⟩ rfl
  have hrequests : Decode.maybe given "rateLimitPerMinute" Decode.uint64 = some requests :=
    maybe_limit (by cases requests <;> cases tokens <;> cases totalTokens <;> rfl)
  have htokens : Decode.maybe given "tokenLimitPerMinute" Decode.uint64 = some tokens :=
    maybe_limit (by cases requests <;> cases tokens <;> cases totalTokens <;> rfl)
  have htotal : Decode.maybe given "totalTokenLimit" Decode.uint64 = some totalTokens :=
    maybe_limit (by cases requests <;> cases tokens <;> cases totalTokens <;> rfl)
  rw [decode, encode, hrecord, Option.bind_eq_bind, Option.bind_some, hrequests,
    htokens, htotal]
  rfl

end UsageLimits

namespace QuotaEntry

theorem decodeTime_encodeTime (time : Option Millis) :
    Decode.optional Decode.millis (encodeTime time) = some time := by
  cases time with
  | none => rfl
  | some time => simp [encodeTime, Document.ofOption, Decode.optional, Decode.millis_value]

theorem decodeClass_encodeClass (errorClass : Option ErrorClass) :
    Decode.optional ErrorClass.decode (.ofOption ErrorClass.encode errorClass) =
      some errorClass := by
  cases errorClass with
  | none => rfl
  | some errorClass =>
      exact congrArg (Option.map some) (ErrorClass.decode_encode errorClass)

theorem decodeShare_encodeShare (share : Option Float) :
    Decode.optional Decode.float (.ofOption .float share) = some share := by
  cases share <;> rfl

/-- An encoded entry has each of its fields once. -/
theorem record_encode (entry : QuotaEntry) {members : List (String × Document)}
    (hmembers : entry.encode = .fields members) :
    Decode.record fieldNames entry.encode = some members := by
  have hnames : members.map Prod.fst = fieldNames.map Field.name := by
    cases hmembers
    rfl
  rw [hmembers, Decode.record]
  refine Decode.collect_eq_self ?_ ?_
  · rw [hnames]
    decide
  · rw [hnames]
    decide

theorem decode_encode (entry : QuotaEntry) : decode entry.encode = some entry := by
  rw [decode, record_encode entry rfl, Option.bind_eq_bind, Option.bind_some]
  refine Decode.bind_defaulted rfl rfl ?_
  refine Decode.bind_defaulted rfl (PoolReason.decode_encode _) ?_
  refine Decode.bind_defaulted rfl (Decode.uint32_toNat _) ?_
  refine Decode.bind_defaulted rfl (decodeTime_encodeTime _) ?_
  refine Decode.bind_defaulted rfl (decodeTime_encodeTime _) ?_
  refine Decode.bind_defaulted rfl rfl ?_
  refine Decode.bind_defaulted rfl (Decode.uint32_toNat _) ?_
  refine Decode.bind_defaulted rfl (Decode.uint32_toNat _) ?_
  refine Decode.bind_defaulted rfl (decodeTime_encodeTime _) ?_
  refine Decode.bind_defaulted rfl (decodeClass_encodeClass _) ?_
  refine Decode.bind_defaulted rfl (Decode.uint32_toNat _) ?_
  refine Decode.bind_defaulted rfl (UsageLimits.decode_encode _) ?_
  refine Decode.bind_defaulted rfl (decodeTime_encodeTime _) ?_
  refine Decode.bind_defaulted rfl (Decode.uint64_toNat _) ?_
  refine Decode.bind_defaulted rfl (Decode.uint64_toNat _) ?_
  refine Decode.bind_defaulted rfl (Decode.uint64_toNat _) ?_
  refine Decode.bind_defaulted rfl (decodeShare_encodeShare _) ?_
  refine Decode.bind_defaulted rfl (decodeTime_encodeTime _) ?_
  refine Decode.bind_defaulted rfl (Decode.millis_value _) ?_
  rfl

end QuotaEntry

end ProviderRouting
