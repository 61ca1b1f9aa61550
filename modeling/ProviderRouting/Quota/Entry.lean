import ProviderRouting.Event

/-!
# Quota entries

An entry is all that is known about the health and the quota of one key: the ends of its
blocking windows, its error counts, its limits and what was used of them.  Whether the key may
be selected follows from these and the time at which one looks; nothing sweeps entries.
-/

namespace ProviderRouting

/-- Why a key may or may not be selected. -/
inductive PoolReason where
  | ok
  | cooldown
  | blacklist
  | fatal
  | depleted
deriving DecidableEq, Repr, Inhabited

namespace PoolReason

def label : PoolReason → String
  | .ok => "ok"
  | .cooldown => "cooldown"
  | .blacklist => "blacklist"
  | .fatal => "fatal"
  | .depleted => "quotaDepleted"

def ofLabel? : String → Option PoolReason
  | "ok" => some .ok
  | "cooldown" => some .cooldown
  | "blacklist" => some .blacklist
  | "fatal" => some .fatal
  | "quotaDepleted" => some .depleted
  | _ => none

theorem ofLabel?_label (reason : PoolReason) : ofLabel? reason.label = some reason := by
  cases reason <;> rfl

/-- A key blocked this hard leaves the queues of sessions instead of moving to their end. -/
def blocksHard (reason : PoolReason) : Bool :=
  reason == .blacklist || reason == .fatal

def encode (reason : PoolReason) : Document :=
  .text reason.label

def decode : Decoder PoolReason :=
  Decode.choice ofLabel?

end PoolReason

/-- What a key may use; a missing limit is no limit. -/
structure UsageLimits where
  /-- Requests in a usage window. -/
  requests : Option UInt64 := none
  /-- Tokens in a usage window. -/
  tokens : Option UInt64 := none
  /-- Tokens ever. -/
  totalTokens : Option UInt64 := none
deriving DecidableEq, Inhabited

namespace UsageLimits

def isUnbounded (limits : UsageLimits) : Bool :=
  limits.requests.isNone && limits.tokens.isNone && limits.totalTokens.isNone

/-- A limit's member, if it is set. -/
def encodeLimit (name : String) : Option UInt64 → List (String × Document)
  | none => []
  | some limit => [(name, .int limit.toNat)]

def encode (limits : UsageLimits) : Document :=
  .fields (encodeLimit "rateLimitPerMinute" limits.requests ++
    encodeLimit "tokenLimitPerMinute" limits.tokens ++
    encodeLimit "totalTokenLimit" limits.totalTokens)

/-- The fields of limits, each with its two names. -/
def fieldNames : List Field :=
  [⟨"rateLimitPerMinute", ["rate_limit_per_minute"]⟩,
    ⟨"tokenLimitPerMinute", ["token_limit_per_minute"]⟩,
    ⟨"totalTokenLimit", ["total_token_limit"]⟩]

def decode : Decoder UsageLimits := fun document => do
  let given ← Decode.record fieldNames document
  some {
    requests := ← Decode.maybe given "rateLimitPerMinute" Decode.uint64
    tokens := ← Decode.maybe given "tokenLimitPerMinute" Decode.uint64
    totalTokens := ← Decode.maybe given "totalTokenLimit" Decode.uint64 }

end UsageLimits

/-- The priority tier of a key that none was given for. -/
def standardTier : UInt32 := 100

/-- The health and the quota of one key. -/
structure QuotaEntry where
  inPool : Bool := true
  reason : PoolReason := .ok
  priorityTier : UInt32 := standardTier
  cooldownUntil : Option Millis := none
  blacklistUntil : Option Millis := none
  /-- The blacklist window comes from a fatal error. -/
  fatal : Bool := false
  /-- Errors since the last success. -/
  consecutiveErrors : UInt32 := 0
  /-- Errors of one class that followed each other closely. -/
  seriesErrors : UInt32 := 0
  lastErrorAt : Option Millis := none
  lastErrorClass : Option ErrorClass := none
  penalty : UInt32 := 0
  limits : UsageLimits := {}
  /-- When the current usage window was opened. -/
  windowStartedAt : Option Millis := none
  windowRequests : UInt64 := 0
  windowTokens : UInt64 := 0
  totalTokens : UInt64 := 0
  /-- The share of the quota that the provider last reported. -/
  remaining : Option Float := none
  depletedUntil : Option Millis := none
  updatedAt : Millis := 0
deriving Inhabited

/-- One more, unless the counter is at its end. -/
def increment (count : UInt32) : UInt32 :=
  if count.toNat + 1 < 4294967296 then count + 1 else count

theorem toNat_increment (count : UInt32) :
    (increment count).toNat = min (count.toNat + 1) 4294967295 := by
  have bound := count.toNat_lt
  unfold increment
  split
  · rw [UInt32.toNat_add]
    simp only [UInt32.reduceToNat]
    omega
  · omega

/-- The sum, or the counter's end. -/
def accumulate (total amount : UInt64) : UInt64 :=
  if total.toNat + amount.toNat < 18446744073709551616 then total + amount
  else 18446744073709551615

theorem toNat_accumulate (total amount : UInt64) :
    (accumulate total amount).toNat =
      min (total.toNat + amount.toNat) 18446744073709551615 := by
  unfold accumulate
  split
  · rw [UInt64.toNat_add]
    omega
  · simp only [UInt64.reduceToNat]
    omega

namespace QuotaEntry

/-- A window that ends later than now. -/
def stillOpen (now : Millis) (until? : Option Millis) : Option Millis :=
  until?.filter fun time => decide (now < time)

theorem stillOpen_eq_some_iff {now time : Millis} {until? : Option Millis} :
    stillOpen now until? = some time ↔ until? = some time ∧ now < time := by
  simp only [stillOpen, Option.filter_eq_some_iff, decide_eq_true_eq]

/-- Make a window end no earlier than this. -/
def extend (until? : Option Millis) (time : Millis) : Option Millis :=
  some (match until? with
    | none => time
    | some current => max current time)

/-- A limit that has been reached. -/
def reached (used : UInt64) (limit : Option UInt64) : Bool :=
  limit.any fun limit => decide (limit ≤ used)

/-- One of the limits has been reached. -/
def isDepleted (entry : QuotaEntry) : Bool :=
  reached entry.windowRequests entry.limits.requests ||
    reached entry.windowTokens entry.limits.tokens ||
    reached entry.totalTokens entry.limits.totalTokens

/-- The usage window has run its length. -/
def windowIsOver (entry : QuotaEntry) (now window : Millis) : Bool :=
  entry.windowStartedAt.any fun started => decide (started.plus window ≤ now)

/-- Forget the windows that have ended. -/
def dropEnded (entry : QuotaEntry) (now window : Millis) : QuotaEntry :=
  let isOver := entry.windowIsOver now window
  { entry with
    cooldownUntil := stillOpen now entry.cooldownUntil
    blacklistUntil := stillOpen now entry.blacklistUntil
    fatal := entry.fatal && (stillOpen now entry.blacklistUntil).isSome
    depletedUntil := stillOpen now entry.depletedUntil
    windowStartedAt := if isOver then none else entry.windowStartedAt
    windowRequests := if isOver then 0 else entry.windowRequests
    windowTokens := if isOver then 0 else entry.windowTokens }

/-- The strongest reason among the windows that an entry still has. -/
def strongestReason (entry : QuotaEntry) : PoolReason :=
  if entry.blacklistUntil.isSome then
    if entry.fatal then .fatal else .blacklist
  else if entry.cooldownUntil.isSome then .cooldown
  else if entry.depletedUntil.isSome || entry.isDepleted then .depleted
  else .ok

/-- The entry with its reason brought up to date. -/
def judged (entry : QuotaEntry) : QuotaEntry :=
  { entry with
    reason := entry.strongestReason
    inPool := entry.strongestReason == .ok }

/-- The entry as it stands at a time. -/
def asOf (entry : QuotaEntry) (now window : Millis) : QuotaEntry :=
  (entry.dropEnded now window).judged

/-- What an error still costs the key in a priority tier. -/
def penaltyAt (entry : QuotaEntry) (now window : Millis) : UInt32 :=
  match entry.lastErrorAt with
  | some time => if now.since time < window then entry.penalty else 0
  | none => 0

/-- When the limits let the key be used again. -/
def usageUntil (entry : QuotaEntry) (window : Millis) : Option Millis :=
  if reached entry.totalTokens entry.limits.totalTokens then some .greatest
  else if entry.isDepleted then entry.windowStartedAt.map (·.plus window)
  else none

/-- The later of two ends. -/
def latest : Option Millis → Option Millis → Option Millis
  | none, right => right
  | left, none => left
  | some left, some right => some (max left right)

/-- The earliest time at which nothing blocks the key any more. -/
def blockedUntil (entry : QuotaEntry) (window : Millis) : Option Millis :=
  latest entry.blacklistUntil (latest entry.cooldownUntil
    (latest entry.depletedUntil (entry.usageUntil window)))

def encodeTime (time : Option Millis) : Document :=
  .ofOption (fun time => .int time.value) time

def encode (entry : QuotaEntry) : Document :=
  .fields [("inPool", .bool entry.inPool),
    ("reason", entry.reason.encode),
    ("priorityTier", .int entry.priorityTier.toNat),
    ("cooldownUntilMs", encodeTime entry.cooldownUntil),
    ("blacklistUntilMs", encodeTime entry.blacklistUntil),
    ("fatal", .bool entry.fatal),
    ("consecutiveErrorCount", .int entry.consecutiveErrors.toNat),
    ("seriesErrorCount", .int entry.seriesErrors.toNat),
    ("lastErrorAtMs", encodeTime entry.lastErrorAt),
    ("lastErrorSeries", .ofOption ErrorClass.encode entry.lastErrorClass),
    ("selectionPenalty", .int entry.penalty.toNat),
    ("limits", entry.limits.encode),
    ("windowStartedAtMs", encodeTime entry.windowStartedAt),
    ("windowRequests", .int entry.windowRequests.toNat),
    ("windowTokens", .int entry.windowTokens.toNat),
    ("totalTokensUsed", .int entry.totalTokens.toNat),
    ("externalRemainingFraction", .ofOption .float entry.remaining),
    ("externalDepletedUntilMs", encodeTime entry.depletedUntil),
    ("updatedAtMs", .int entry.updatedAt.value)]

/-- The fields of an encoded entry, in their order. -/
def fieldNames : List Field :=
  ["inPool", "reason", "priorityTier", "cooldownUntilMs", "blacklistUntilMs", "fatal",
    "consecutiveErrorCount", "seriesErrorCount", "lastErrorAtMs", "lastErrorSeries",
    "selectionPenalty", "limits", "windowStartedAtMs", "windowRequests", "windowTokens",
    "totalTokensUsed", "externalRemainingFraction", "externalDepletedUntilMs",
    "updatedAtMs"].map (⟨·, []⟩)

def decode : Decoder QuotaEntry := fun document => do
  let given ← Decode.record fieldNames document
  some {
    inPool := ← Decode.defaulted given "inPool" Decode.bool true
    reason := ← Decode.defaulted given "reason" PoolReason.decode .ok
    priorityTier := ← Decode.defaulted given "priorityTier" Decode.uint32 standardTier
    cooldownUntil := ← Decode.maybe given "cooldownUntilMs" Decode.millis
    blacklistUntil := ← Decode.maybe given "blacklistUntilMs" Decode.millis
    fatal := ← Decode.defaulted given "fatal" Decode.bool false
    consecutiveErrors := ← Decode.defaulted given "consecutiveErrorCount" Decode.uint32 0
    seriesErrors := ← Decode.defaulted given "seriesErrorCount" Decode.uint32 0
    lastErrorAt := ← Decode.maybe given "lastErrorAtMs" Decode.millis
    lastErrorClass := ← Decode.maybe given "lastErrorSeries" ErrorClass.decode
    penalty := ← Decode.defaulted given "selectionPenalty" Decode.uint32 0
    limits := ← Decode.defaulted given "limits" UsageLimits.decode {}
    windowStartedAt := ← Decode.maybe given "windowStartedAtMs" Decode.millis
    windowRequests := ← Decode.defaulted given "windowRequests" Decode.uint64 0
    windowTokens := ← Decode.defaulted given "windowTokens" Decode.uint64 0
    totalTokens := ← Decode.defaulted given "totalTokensUsed" Decode.uint64 0
    remaining := ← Decode.maybe given "externalRemainingFraction" Decode.float
    depletedUntil := ← Decode.maybe given "externalDepletedUntilMs" Decode.millis
    updatedAt := ← Decode.defaulted given "updatedAtMs" Decode.millis 0 }

end QuotaEntry

end ProviderRouting
