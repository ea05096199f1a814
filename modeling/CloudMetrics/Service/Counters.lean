import CloudMetrics.Json.Value
import CloudMetrics.Metrics.Exposition

/-!
# The service's own metrics

Errors and observed durations are counted for each collector; the version is a label. The counts are
written in the order of the collectors' names.
-/
namespace CloudMetrics.Service

open Metrics

structure Counters where
  /-- Errors, by collector. -/
  errors : List (String × Nat) := []
  /-- How many durations have been observed, by collector. -/
  durations : List (String × Nat) := []
  version : Option String := none
deriving DecidableEq, Repr, Inhabited

namespace Counters

/-- One more of something. -/
def bump (name : String) (counts : List (String × Nat)) : List (String × Nat) :=
  Json.put name ((counts.lookup name).getD 0 + 1) counts

/-- A collector that reports zero before its first error. -/
def register (c : Counters) (collector : String) : Counters :=
  if (c.errors.lookup collector).isSome then c else { c with errors := Json.put collector 0 c.errors }

def fail (c : Counters) (collector : String) : Counters := { c with errors := bump collector c.errors }

/-- One error for each name. -/
def failAll (c : Counters) (collectors : List String) : Counters := collectors.foldl fail c

/-- A collector's run has been timed. -/
def observe (c : Counters) (collector : String) : Counters :=
  { c with durations := bump collector c.durations }

def setVersion (c : Counters) (version : String) : Counters := { c with version := some version }

def errorsOf (c : Counters) (collector : String) : Nat := (c.errors.lookup collector).getD 0

def durationsOf (c : Counters) (collector : String) : Nat := (c.durations.lookup collector).getD 0

def versionFamily (version : String) : Family :=
  ⟨"sakuracloud_exporter_build_info","A metric with a constant '1' value labeled by exporter version",.gauge,
    [⟨[("version",version)],1,0⟩]⟩

def errorFamily (counts : List (String × Nat)) : Family :=
  ⟨"sakuracloud_exporter_errors_total","The total number of errors per collector",.counter,
    (counts.mergeSort fun a b => !decide (b.1 < a.1)).map fun p => ⟨[("collector",p.1)],Float.ofNat p.2,0⟩⟩

/-- The families with anything to show, by name. -/
def families (c : Counters) : List Family :=
  (c.version.map versionFamily).toList ++ (if c.errors.isEmpty then [] else [errorFamily c.errors])

end Counters

end CloudMetrics.Service
