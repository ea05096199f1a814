import CloudMetrics.Collect.Run

/-!
# Queries across zones

One task per zone, all at once. A task ends with items, with a failure, or it is lost and with it the
name of its zone: a lost task's zone is one of those that never answered.
-/
namespace CloudMetrics.Collect

open Cloud

/-- A resource and the zone it was listed in. -/
structure Zoned (α : Type) where
  zone : String
  resource : α
deriving Repr

/-- How a task ends. -/
inductive Outcome (α : Type) where
  | done (value : α)
  | failed (failure : Failure)
  | lost
deriving Repr

def Outcome.ofExcept {α : Type} : Except ApiError α → Outcome α
  | .ok a => .done a
  | .error e => .failed (.ofApi e)

structure ZoneError where
  zone : String
  failure : Failure
deriving Repr

/-- Items and errors, both in the order in which the zones completed. -/
structure ZoneResults (α : Type) where
  items : List (Zoned α) := []
  errors : List ZoneError := []

def ZoneResults.isComplete {α : Type} (r : ZoneResults α) : Bool := r.errors.isEmpty

/-- The failure of a lost task. -/
def lostTask : Failure := .ofText "zone query task failed"

/-- Removes the first occurrence of a zone; the last zone of the list takes its place. -/
def dropAnswered (zone : String) (waiting : List String) : List String :=
  match waiting.idxOf? zone with
  | none => waiting
  | some i =>
    match waiting.getLast? with
    | none => waiting
    | some last => waiting.dropLast.set i last

/-- What is known while tasks complete. -/
structure Gathering (α : Type) where
  results : ZoneResults α := {}
  waiting : List String
  lost : Nat := 0

/-- One task has completed. -/
def Gathering.complete {α : Type} (g : Gathering α) (zone : String) : Outcome (List α) → Gathering α
  | .lost => { g with lost := g.lost+1 }
  | .done items =>
    { g with
      waiting := dropAnswered zone g.waiting
      results := { g.results with items := g.results.items ++ items.map (⟨zone,·⟩) } }
  | .failed f =>
    { g with
      waiting := dropAnswered zone g.waiting
      results := { g.results with errors := g.results.errors ++ [⟨zone,f⟩] } }

/-- All tasks have completed; each lost one is laid to a zone that never answered. -/
def Gathering.close {α : Type} (g : Gathering α) : ZoneResults α :=
  { g.results with
    errors := g.results.errors ++ (g.waiting.zip (List.replicate g.lost ())).map fun p => ⟨p.1,lostTask⟩ }

/-- The results of one task per zone. The tasks complete in the given order. -/
def queryZones {α : Type} (order : Order) (tasks : List (String × Outcome (List α))) : ZoneResults α :=
  ((order.arrange tasks).foldl (fun g t => g.complete t.1 t.2)
    ({ waiting := tasks.map (·.1) } : Gathering α)).close

end CloudMetrics.Collect
