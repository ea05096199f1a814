import CloudMetrics.Cloud.Monitor

/-!
# Settled samples

The newest point of a monitor is still being summed up, so the value that counts is the second newest.
-/
namespace CloudMetrics.Collect

open Cloud Time

/-- Fewer samples than this hold no settled one. -/
def minSamples : Nat := 2

/-- Samples from the newest to the oldest; of one instant, in their own order. -/
def newestFirst {V : Type} (samples : List (MonitorSample V)) : List (MonitorSample V) :=
  samples.mergeSort fun a b => decide (b.time ≤ a.time)

/-- The second newest sample. -/
def latestSettled {V : Type} (samples : List (MonitorSample V)) : Option (MonitorSample V) :=
  if samples.length < minSamples then none else (newestFirst samples)[1]?

end CloudMetrics.Collect
