import ProviderRouting.Quota.Entry
import ProviderRouting.Quota.Settings
import ProviderRouting.Table

/-!
# The quota ledger

The ledger holds one entry per key that something happened to.  An error that may heal leads
through the steps of the cooldown schedule and, after enough errors of one class in a row, to a
blacklist; a fatal error leads to a blacklist at once.  Windows are only ever extended, and a
success forgets the error counts but no window.

Every change moves the ledger's revision.
-/

namespace ProviderRouting

/-- What an error did to its key. -/
structure ErrorEffect where
  errorClass : ErrorClass
  reason : PoolReason
  seriesErrors : UInt32
  consecutiveErrors : UInt32
  cooldownUntil : Option Millis
  blacklistUntil : Option Millis
deriving DecidableEq

namespace QuotaEntry

/-- The error continues the entry's series: it has the same class as the last error and comes
within the series window. -/
def continuesSeries (entry : QuotaEntry) (settings : QuotaSettings) (errorClass : ErrorClass)
    (now : Millis) : Bool :=
  entry.lastErrorClass == some errorClass &&
    entry.lastErrorAt.any fun time => decide (now.since time ≤ settings.seriesWindow)

/-- Count an error. -/
def countError (entry : QuotaEntry) (settings : QuotaSettings) (errorClass : ErrorClass)
    (now : Millis) : QuotaEntry :=
  let consecutive := increment entry.consecutiveErrors
  { entry with
    seriesErrors :=
      if entry.continuesSeries settings errorClass now then increment entry.seriesErrors else 1
    consecutiveErrors := consecutive
    penalty := consecutive
    lastErrorAt := some now
    lastErrorClass := some errorClass }

/-- Open or extend the windows that the counted errors lead to. -/
def escalate (entry : QuotaEntry) (settings : QuotaSettings) (errorClass : ErrorClass)
    (retryAfter : Option Millis) (now : Millis) : QuotaEntry :=
  if errorClass = .fatal then
    { entry with
      blacklistUntil := extend entry.blacklistUntil (now.plus settings.fatalBlacklist)
      fatal := true }
  else
    let wait := max (settings.cooldown entry.seriesErrors) (max (retryAfter.getD 0) 0)
    { entry with
      cooldownUntil := extend entry.cooldownUntil (now.plus wait)
      blacklistUntil :=
        if settings.blacklistThreshold ≤ entry.seriesErrors then
          extend entry.blacklistUntil (now.plus settings.blacklist)
        else entry.blacklistUntil }

/-- The entry after an error. -/
def afterError (entry : QuotaEntry) (settings : QuotaSettings) (event : ErrorEvent) :
    QuotaEntry :=
  let window := settings.usageWindow
  let errorClass := event.errorClass
  let counted := (entry.asOf event.time window).countError settings errorClass event.time
  let blocked := counted.escalate settings errorClass event.retryAfter event.time
  { blocked with updatedAt := event.time }.asOf event.time window

/-- The entry after a success. -/
def afterSuccess (entry : QuotaEntry) (settings : QuotaSettings) (now : Millis) : QuotaEntry :=
  { entry with
    consecutiveErrors := 0
    seriesErrors := 0
    penalty := 0
    lastErrorClass := none
    updatedAt := now }.asOf now settings.usageWindow

/-- The entry after one request that used some tokens. -/
def afterUsage (entry : QuotaEntry) (settings : QuotaSettings) (tokens : UInt64)
    (now : Millis) : QuotaEntry :=
  let current := entry.asOf now settings.usageWindow
  { current with
    windowStartedAt := some (current.windowStartedAt.getD now)
    windowRequests := accumulate current.windowRequests 1
    windowTokens := accumulate current.windowTokens tokens
    totalTokens := accumulate current.totalTokens tokens
    updatedAt := now }.asOf now settings.usageWindow

/-- A share, moved into the range from 0 to 1. -/
def clampShare (share : Float) : Float :=
  if share < 0.0 then 0.0 else if 1.0 < share then 1.0 else share

/-- The entry after the provider's own report: depleted until the reset if nothing is left and
the reset lies ahead. -/
def afterReport (entry : QuotaEntry) (settings : QuotaSettings) (remaining : Float)
    (resetAt : Option Millis) (now : Millis) : QuotaEntry :=
  let share := clampShare remaining
  { entry with
    remaining := some share
    depletedUntil := if share ≤ 0.0 then stillOpen now resetAt else none
    updatedAt := now }.asOf now settings.usageWindow

/-- The entry with the settings that a configuration gives. -/
def withStatic (entry : QuotaEntry) (limits : Option UsageLimits)
    (priorityTier : Option UInt32) : QuotaEntry :=
  { entry with
    limits := limits.getD entry.limits
    priorityTier := priorityTier.getD entry.priorityTier }

/-- A new entry with the same static settings. -/
def cleared (entry : QuotaEntry) (now : Millis) : QuotaEntry :=
  { limits := entry.limits, priorityTier := entry.priorityTier, updatedAt := now }

def effect (entry : QuotaEntry) (errorClass : ErrorClass) : ErrorEffect where
  errorClass
  reason := entry.reason
  seriesErrors := entry.seriesErrors
  consecutiveErrors := entry.consecutiveErrors
  cooldownUntil := entry.cooldownUntil
  blacklistUntil := entry.blacklistUntil

end QuotaEntry

structure QuotaLedger where
  entries : Table ProviderKey QuotaEntry := ∅
  settings : QuotaSettings := {}
  /-- Moves with every change. -/
  revision : UInt64 := 0

namespace QuotaLedger

/-- The stored entry of a key, or a new one. -/
def entry (ledger : QuotaLedger) (key : ProviderKey) : QuotaEntry :=
  (ledger.entries.get? key).getD {}

/-- Store an entry as one change. -/
def store (ledger : QuotaLedger) (key : ProviderKey) (entry : QuotaEntry) : QuotaLedger :=
  { ledger with
    entries := ledger.entries.insert key entry
    revision := ledger.revision + 1 }

theorem entry_store (ledger : QuotaLedger) (key probe : ProviderKey) (stored : QuotaEntry) :
    (ledger.store key stored).entry probe =
      if probe = key then stored else ledger.entry probe := by
  simp only [entry, store, Table.get?_insert]
  split <;> rfl

def noteError (ledger : QuotaLedger) (event : ErrorEvent) : ErrorEffect × QuotaLedger :=
  let entry := (ledger.entry event.key).afterError ledger.settings event
  (entry.effect event.errorClass, ledger.store event.key entry)

def noteSuccess (ledger : QuotaLedger) (event : SuccessEvent) : PoolReason × QuotaLedger :=
  let entry := (ledger.entry event.key).afterSuccess ledger.settings event.time
  (entry.reason, ledger.store event.key entry)

def noteUsage (ledger : QuotaLedger) (key : ProviderKey) (tokens : UInt64) (now : Millis) :
    PoolReason × QuotaLedger :=
  let entry := (ledger.entry key).afterUsage ledger.settings tokens now
  (entry.reason, ledger.store key entry)

def noteReport (ledger : QuotaLedger) (report : QuotaReport) (now : Millis) :
    PoolReason × QuotaLedger :=
  let entry := (ledger.entry report.key).afterReport ledger.settings report.remaining
    report.resetAt now
  (entry.reason, ledger.store report.key entry)

def putStatic (ledger : QuotaLedger) (key : ProviderKey) (limits : Option UsageLimits)
    (priorityTier : Option UInt32) : QuotaLedger :=
  ledger.store key ((ledger.entry key).withStatic limits priorityTier)

/-- Clear what happened to a key, if anything did. -/
def clear (ledger : QuotaLedger) (key : ProviderKey) (now : Millis) : Bool × QuotaLedger :=
  match ledger.entries.get? key with
  | none => (false, ledger)
  | some entry => (true, ledger.store key (entry.cleared now))

/-- Replace the entries of the given keys as one change. -/
def putAll (ledger : QuotaLedger) (rows : List (ProviderKey × QuotaEntry)) : QuotaLedger :=
  { ledger with
    entries := rows.foldl (fun entries row => entries.insert row.1 row.2) ledger.entries
    revision := ledger.revision + 1 }

/-- A key's entry as it stands at a time; an unknown key has a new one. -/
def entryAt (ledger : QuotaLedger) (key : ProviderKey) (now : Millis) : QuotaEntry :=
  (ledger.entry key).asOf now ledger.settings.usageWindow

/-- Nothing in the key's own entry speaks against selecting it. -/
def isAvailable (ledger : QuotaLedger) (key : ProviderKey) (now : Millis) : Bool :=
  (ledger.entryAt key now).inPool

/-- All entries as they stand at a time. -/
def entriesAt (ledger : QuotaLedger) (now : Millis) : Table ProviderKey QuotaEntry :=
  ledger.entries.mapValues fun entry => entry.asOf now ledger.settings.usageWindow

end QuotaLedger

end ProviderRouting
