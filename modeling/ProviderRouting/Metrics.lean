import ProviderRouting.Quota.Entry
import ProviderRouting.Table

/-!
# Metrics

Counters of selections, exhausted selections, errors, series cooldowns and dropped bindings, and
for every key that something was reported about, a gauge per reason that is one while the key
is blocked for it.

A value is found by a digest of its label values, written one after the other.  Which digest that
is, is left open: labels with one digest share a value, whether they read the same or the digest
takes them for the same.  The usual digest has 64 bits and keeps apart all labels that are met in
practice, but not all there are.
-/

namespace ProviderRouting

/-- A value with the label values that it is shown under. -/
structure Labelled where
  labels : List String
  value : Nat
deriving DecidableEq, Inhabited

/-- The 64-bit FNV-1a digest of a text. -/
def fnv1a (text : String) : UInt64 :=
  (text.toList.flatMap String.utf8EncodeChar).foldl
    (fun digest byte => (digest ^^^ byte.toUInt64) * 0x100000001b3) 0xcbf29ce484222325

/-- Two routes that share a counter. -/
example : fnv1a "8yn0iYCKYHlIj4-BwPqk" = fnv1a "GReLUrM4wMqfg9yzV3KQ" := by decide +kernel

/-- Values by the digests of their label values.  A value is shown under the label values that it
was first found by. -/
structure MetricFamily where
  digest : String → UInt64 := fnv1a
  values : Table UInt64 Labelled := ∅
deriving Inhabited

namespace MetricFamily

/-- What the value of some labels is found by. -/
def name (family : MetricFamily) (labels : List String) : UInt64 :=
  family.digest (String.join labels)

/-- Change the value of some label values, which is zero at first. -/
def update (family : MetricFamily) (labels : List String) (change : Nat → Nat) : MetricFamily :=
  let present := (family.values.get? (family.name labels)).getD ⟨labels, 0⟩
  { family with
    values := family.values.insert (family.name labels)
      { present with value := change present.value } }

/-- Count one more. -/
def add (family : MetricFamily) (labels : List String) : MetricFamily :=
  family.update labels (· + 1)

end MetricFamily

structure Metrics where
  /-- By route, provider, model and source. -/
  selections : MetricFamily := {}
  /-- By route. -/
  exhausted : MetricFamily := {}
  /-- By provider, model and error class. -/
  errors : MetricFamily := {}
  /-- By key and reason. -/
  blocked : MetricFamily := {}
  /-- By series. -/
  seriesCooldowns : MetricFamily := {}
  autoClears : Nat := 0
deriving Inhabited

namespace Metrics

/-- Metrics that find their values by a digest, when nothing was counted yet. -/
def ofDigest (digest : String → UInt64) : Metrics where
  selections := { digest }
  exhausted := { digest }
  errors := { digest }
  blocked := { digest }
  seriesCooldowns := { digest }

def countSelection (metrics : Metrics) (route provider model source : String) : Metrics :=
  { metrics with selections := metrics.selections.add [route, provider, model, source] }

def countExhausted (metrics : Metrics) (route : String) : Metrics :=
  { metrics with exhausted := metrics.exhausted.add [route] }

def countError (metrics : Metrics) (provider model : String) (errorClass : ErrorClass) :
    Metrics :=
  { metrics with errors := metrics.errors.add [provider, model, errorClass.label] }

def countSeriesCooldown (metrics : Metrics) (series : String) : Metrics :=
  { metrics with seriesCooldowns := metrics.seriesCooldowns.add [series] }

def countAutoClear (metrics : Metrics) : Metrics :=
  { metrics with autoClears := metrics.autoClears + 1 }

/-- The reasons that have a gauge. -/
def blockReasons : List PoolReason :=
  [.cooldown, .blacklist, .fatal, .depleted]

/-- Set the gauges of a key to its reason. -/
def updateKey (metrics : Metrics) (key : String) (reason : PoolReason) : Metrics :=
  { metrics with
    blocked := blockReasons.foldl
      (fun gauges candidate =>
        gauges.update [key, candidate.label] fun _ => if candidate = reason then 1 else 0)
      metrics.blocked }

/-- One gathered value: the name of its metric, its labels by name, and the value. -/
structure Sample where
  name : String
  labels : List (String × String)
  value : Nat
deriving DecidableEq

/-- The samples of one metric. -/
def samplesOf (name : String) (labelNames : List String) (family : MetricFamily) : List Sample :=
  family.values.rows.map fun row => ⟨name, labelNames.zip row.2.labels, row.2.value⟩

/-- Everything that is counted. -/
def samples (metrics : Metrics) : List Sample :=
  samplesOf "keyroute_selections_total" ["route", "provider", "model", "source"]
      metrics.selections ++
    samplesOf "keyroute_selection_exhausted_total" ["route"] metrics.exhausted ++
    samplesOf "keyroute_provider_errors_total" ["provider", "model", "class"] metrics.errors ++
    samplesOf "keyroute_key_blocked" ["key", "reason"] metrics.blocked ++
    samplesOf "keyroute_series_cooldowns_total" ["series"] metrics.seriesCooldowns ++
    [⟨"keyroute_sticky_auto_clears_total", [], metrics.autoClears⟩]

end Metrics

end ProviderRouting
