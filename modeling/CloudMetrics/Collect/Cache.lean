import CloudMetrics.Time.Instant

/-!
# A cache of one item

The slot holds one item until an instant. Reading looks at the instant each time; sweeping empties a
slot whose item has expired, and no reader can tell. Account data is refreshed at one time of day, so
items are kept up to the next refresh.
-/
namespace CloudMetrics.Collect

open Time

structure Entry (α : Type) where
  item : α
  expires : Instant
deriving DecidableEq, Repr

abbrev Slot (α : Type) := Option (Entry α)

inductive CacheError where
  | emptyItem
  | zeroExpiry
deriving DecidableEq, Repr

def CacheError.message : CacheError → String
  | .emptyItem => "cannot cache an empty item"
  | .zeroExpiry => "expiry must not be zero"

namespace Slot

variable {α : Type}

/-- Puts an item in place of what was there. -/
def set (_ : Slot α) (item : Option α) (expires : Instant) : Except CacheError (Slot α) :=
  match item with
  | none => .error .emptyItem
  | some item => if expires = .epoch then .error .zeroExpiry else .ok (some ⟨item,expires⟩)

/-- The item, unless it has expired. -/
def get (s : Slot α) (now : Instant) : Option α := s.bind fun e => if now < e.expires then some e.item else none

/-- Empties a slot whose item has expired. -/
def purge (s : Slot α) (now : Instant) : Slot α := s.bind fun e => if now < e.expires then some e else none

/-- Whether there is something to purge. -/
def isStale (s : Slot α) (now : Instant) : Bool := s.any fun e => !decide (now < e.expires)

end Slot

/-- A slot that is swept at every multiple of an interval on a clock of its own. -/
structure SweptCache (α : Type) where
  slot : Slot α := none
  /-- Milliseconds since the cache was made. -/
  elapsed : Nat := 0
  interval : Nat

/-- Moves the cache's clock; a sweep that falls due goes by the wall clock. -/
def SweptCache.advance {α : Type} (c : SweptCache α) (millis : Nat) (now : Instant) : SweptCache α :=
  let due := 0 < c.interval && c.elapsed/c.interval < (c.elapsed+millis)/c.interval
  { c with elapsed := c.elapsed+millis, slot := if due then c.slot.purge now else c.slot }

/-- The interval between sweeps in seconds. -/
def sweepSeconds : Nat := 60

/-- A time of day, at a place `offset` seconds east, when the cloud's account data changes. -/
structure DailyRefresh where
  offset : Int
  second : Nat
  nanos : Nat := 0
deriving DecidableEq, Repr

namespace DailyRefresh

/-- The place where billing months and days are counted: nine hours east. -/
def billingOffset : Int := 9*3600

/-- Half past four in the morning, when billing data is worked out. -/
def billing : DailyRefresh := ⟨billingOffset,4*3600+30*60,0⟩

/-- The refresh on the day of an instant, or the one a day later when that is not after the instant. -/
def nextAfter (r : DailyRefresh) (now : Instant) : Instant :=
  let candidate := Instant.ofLocal (now.dayAt r.offset) r.second r.nanos r.offset
  if now < candidate then candidate else candidate.add (.ofDays 1)

end DailyRefresh

end CloudMetrics.Collect
