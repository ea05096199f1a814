import CloudMetrics.Collect.Cache
import CloudMetrics.Collect.Settled
import CloudMetrics.Collect.Zones

/-!
# The cycle of a collection

Every kind of resource is collected in one way: list it across the zones, enrich each resource in a
task of its own, hand over one batch per resource. Failures are recorded, never returned: a failed
listing ends the cycle, a failed query leaves a gap.
-/
namespace CloudMetrics.Collect

open Cloud Metrics Time

/-- Minutes of the trailing window that monitors are asked for. -/
def windowMinutes : Int := 60

/-- What a collection is given. -/
structure Context where
  collector : String
  zones : List String
  window : Window
  /-- The instance named in log events. -/
  source : String
deriving DecidableEq, Repr

/-- A context whose window ends now and whose events name the collector. -/
def Context.new (collector : String) (zones : List String) (now : Instant) : Context :=
  ⟨collector,zones,.endingAt now (.ofMinutes windowMinutes),collector⟩

namespace Context

variable {α V : Type} (ctx : Context)

/-- Counts a failure, notes what it says about the cloud, and logs it. -/
def record (stage subject : String) (failure : Failure) : Run Unit :=
  ⟨(),{ failures := 1, faults := .ofFailure failure, counted := [ctx.collector],
        events := [⟨ctx.source,ctx.collector,stage,subject,failure⟩] }⟩

/-- Notes what a failure says about the cloud, and no more. -/
def note (failure : Failure) : Run Unit := ⟨(),{ faults := .ofFailure failure }⟩

/-- The items of a complete result. Of an incomplete one the first error is recorded, under the names
of all zones that failed, and the others are only noted. -/
def settleZones (r : ZoneResults α) : Run (Option (List (Zoned α))) :=
  match r.errors with
  | [] => pure (some r.items)
  | first :: others => do
    ctx.record "list" (String.intercalate "," (r.errors.map (·.zone))) first.failure
    let _ ← Run.sequence (others.map fun e => note e.failure)
    pure none

/-- Lists resources across some zones; nothing if a zone failed. -/
def listIn (order : Order) (zones : List String) (query : String → Run (Outcome (List α))) :
    Run (Option (List (Zoned α))) := do
  let outcomes ← Run.sequence (zones.map fun z => do
    let o ← query z
    pure (z,o))
  ctx.settleZones (queryZones order outcomes)

/-- Makes a query; a failure is recorded and leaves nothing. -/
def fetch (stage subject : String) (query : Run (Except Failure α)) : Run (Option α) := do
  match ← query with
  | .ok a => pure (some a)
  | .error f => do
    ctx.record stage subject f
    pure none

/-- Makes a monitor query and keeps the settled sample. -/
def settled (stage subject : String) (query : Run (Except Failure (List (MonitorSample V)))) :
    Run (Option (MonitorSample V)) := do
  return (← ctx.fetch stage subject query).bind latestSettled

/-- The failure of a resource task that broke off. -/
def brokenTask : Failure := .ofText "task failed"

/-- Runs one task per resource and hands over their batches. A task without a batch has broken off;
it is recorded, and the others go on. -/
def forEach (order : Order) (resources : List (Zoned α)) (enrich : Zoned α → Run (Option Batch)) :
    Run Unit := do
  let _ ← Run.sequence (order.arrange (resources.map fun r => do
    match ← enrich r with
    | some b => Run.emit b
    | none => ctx.record "enrich" "unknown" brokenTask))

/-- What a cached query gave, and the slot afterwards. -/
structure Served (α : Type) where
  value : Option α
  slot : Slot α
  /-- Whether the query was made. -/
  queried : Bool

/-- The slot after a fresh value was stored up to the next refresh. -/
def store (refresh : DailyRefresh) (now : Instant) (slot : Slot α) (fresh : α) : Slot α :=
  match slot.set (some fresh) (refresh.nextAfter now) with
  | .ok slot => slot
  | .error _ => slot

/-- Serves a value from a slot; a miss makes the query and stores its answer. -/
def cached (refresh : DailyRefresh) (now : Instant) (slot : Slot α) (stage : String)
    (query : Run (Except Failure α)) : Run (Served α) :=
  match slot.get now with
  | some hit => pure ⟨some hit,slot,false⟩
  | none => do
    match ← ctx.fetch stage "account" query with
    | none => pure ⟨none,slot,true⟩
    | some fresh => pure ⟨some fresh,store refresh now slot fresh,true⟩

end Context

/-- The rows of something that may be missing. -/
def rowsOf {α : Type} (a : Option α) (rows : α → Batch) : Batch := (a.map rows).getD []

/-- A call whose error is a failure. -/
def Run.call (api : Api) (c : Call) : Run (Except Failure c.Answer) := do
  match ← Run.ask api c with
  | .ok a => pure (.ok a)
  | .error e => pure (.error (.ofApi e))

/-- A call as the task of a zone. -/
def Run.callZone (api : Api) (c : Call) : Run (Outcome c.Answer) := do
  return .ofExcept (← Run.ask api c)

/-- The cycle of a kind whose resources are listed by zone. -/
def Context.collectEach {α : Type} (ctx : Context) (schedule : Schedule) (zones : List String)
    (list : String → Run (Outcome (List α))) (enrich : Zoned α → Run Batch) : Run Unit := do
  match ← ctx.listIn schedule.zones zones list with
  | none => pure ()
  | some resources => ctx.forEach schedule.tasks resources fun r => some <$> enrich r

end CloudMetrics.Collect
