import ProviderRouting.ConfigError
import ProviderRouting.Decode

/-!
# Quota settings

How long errors block a key: cooldowns follow a schedule by the number of errors in a series,
enough errors in a series lead to a blacklist, and fatal errors lead to one at once.
-/

namespace ProviderRouting

structure QuotaSettings where
  /-- Seconds of cooldown after the first, second, … error of a series. -/
  cooldownSchedule : List UInt64 := [60, 180, 300]
  /-- Errors of a series that lead to a blacklist. -/
  blacklistThreshold : UInt32 := 3
  blacklistSeconds : UInt64 := 21600
  fatalBlacklistSeconds : UInt64 := 21600
  /-- Errors further apart than this begin a new series. -/
  seriesWindowSeconds : UInt64 := 600
  /-- The length of a usage window. -/
  usageWindowSeconds : UInt64 := 60
deriving DecidableEq, Inhabited

namespace QuotaSettings

/-- The cooldown after the given number of errors; the last step repeats. -/
def cooldown (settings : QuotaSettings) (errors : UInt32) : Millis :=
  let step := min (errors.toNat - 1) (settings.cooldownSchedule.length - 1)
  .ofSeconds (settings.cooldownSchedule[step]?.getD 0)

def blacklist (settings : QuotaSettings) : Millis :=
  .ofSeconds settings.blacklistSeconds

def fatalBlacklist (settings : QuotaSettings) : Millis :=
  .ofSeconds settings.fatalBlacklistSeconds

def seriesWindow (settings : QuotaSettings) : Millis :=
  .ofSeconds settings.seriesWindowSeconds

def usageWindow (settings : QuotaSettings) : Millis :=
  .ofSeconds settings.usageWindowSeconds

def validate (settings : QuotaSettings) : Except ConfigError Unit := do
  ensureValue (!settings.cooldownSchedule.isEmpty) "quota.cooldown_schedule_secs"
    "must not be empty"
  ensurePositive settings.blacklistThreshold.toNat "quota.blacklist_threshold"
  ensurePositive settings.seriesWindowSeconds.toNat "quota.series_window_secs"
  ensurePositive settings.usageWindowSeconds.toNat "quota.usage_window_secs"

def encode (settings : QuotaSettings) : Document :=
  .fields [("cooldown_schedule_secs",
      .list (settings.cooldownSchedule.map fun seconds => .int seconds.toNat)),
    ("blacklist_threshold", .int settings.blacklistThreshold.toNat),
    ("blacklist_secs", .int settings.blacklistSeconds.toNat),
    ("fatal_blacklist_secs", .int settings.fatalBlacklistSeconds.toNat),
    ("series_window_secs", .int settings.seriesWindowSeconds.toNat),
    ("usage_window_secs", .int settings.usageWindowSeconds.toNat)]

def decode : Decoder QuotaSettings := fun document => do
  let given ← Decode.record [⟨"cooldown_schedule_secs", []⟩, ⟨"blacklist_threshold", []⟩,
    ⟨"blacklist_secs", []⟩, ⟨"fatal_blacklist_secs", []⟩, ⟨"series_window_secs", []⟩,
    ⟨"usage_window_secs", []⟩] document
  some {
    cooldownSchedule := ← Decode.defaulted given "cooldown_schedule_secs"
      (Decode.list Decode.uint64) [60, 180, 300]
    blacklistThreshold := ← Decode.defaulted given "blacklist_threshold" Decode.uint32 3
    blacklistSeconds := ← Decode.defaulted given "blacklist_secs" Decode.uint64 21600
    fatalBlacklistSeconds := ← Decode.defaulted given "fatal_blacklist_secs" Decode.uint64 21600
    seriesWindowSeconds := ← Decode.defaulted given "series_window_secs" Decode.uint64 600
    usageWindowSeconds := ← Decode.defaulted given "usage_window_secs" Decode.uint64 60 }

end QuotaSettings

end ProviderRouting
