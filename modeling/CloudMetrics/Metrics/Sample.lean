import CloudMetrics.Decimal.Layout
import CloudMetrics.Time.Instant

/-!
# Samples of gauges

A gauge is described once: its name, its help text and the names of its labels. A sample adds a value
for every label, a number, and the instant when the number was measured, if it was not just now.
-/
namespace CloudMetrics.Metrics

open Time

structure Gauge where
  name : String
  help : String
  labels : List String
deriving DecidableEq, Repr

structure Sample where
  name : String
  help : String
  labels : List (String × String)
  value : Float
  time : Option Instant := none
deriving Repr, Inhabited

/-- The samples of one resource; they stay together and in order. -/
abbrev Batch := List Sample

/-- A sample with values for the labels in their order. -/
def Gauge.sample (g : Gauge) (value : Float) (values : List String) : Sample :=
  ⟨g.name,g.help,g.labels.zip values,value,none⟩

namespace Sample

/-- The sample as of the instant when it was measured. -/
def stamped (s : Sample) (t : Instant) : Sample := { s with time := some t }

/-- The value of a label. -/
def label? (s : Sample) (name : String) : Option String := s.labels.lookup name

end Sample

/-- A sample that has a value for each label, and no value more. -/
abbrev Gauge.fill (g : Gauge) (value : Float) (values : List String)
    (_full : values.length = g.labels.length := by rfl) : Sample := g.sample value values

/-- A truth value as a number. -/
def boolValue (b : Bool) : Float := if b then 1 else 0

/-- A gauge whose value is always one; its labels carry the information. -/
def Gauge.info (g : Gauge) (values : List String)
    (full : values.length = g.labels.length := by rfl) : Sample := g.fill 1 values full

/-- Tags in ascending order with a comma before, between and after; no text for no tags. -/
def flattenTags (tags : List String) : String :=
  if tags.isEmpty then ""
  else "," ++ String.intercalate "," (tags.mergeSort fun a b => !decide (b < a)) ++ ","

@[simp] theorem Gauge.sample_name (g : Gauge) (v : Float) (values : List String) : (g.sample v values).name = g.name := rfl

@[simp] theorem Gauge.sample_time (g : Gauge) (v : Float) (values : List String) : (g.sample v values).time = none := rfl

@[simp] theorem Sample.stamped_name (s : Sample) (t : Instant) : (s.stamped t).name = s.name := rfl

@[simp] theorem Sample.stamped_time (s : Sample) (t : Instant) : (s.stamped t).time = some t := rfl

end CloudMetrics.Metrics
