import CloudMetrics.Collect.Run
import CloudMetrics.Json.Value
import CloudMetrics.Time.Instant

/-!
# Health

Components are the cloud's API and the collectors. Each has the status that was recorded last for it;
the overall status is the worst of them. The service is ready once it has started and the cloud does
not refuse the credentials.
-/
namespace CloudMetrics.Service

open Collect Time

inductive Status where
  | healthy
  /-- Still serving, with gaps. -/
  | degraded
  | unhealthy
deriving DecidableEq, Repr

namespace Status

def rank : Status → Nat
  | .healthy => 0
  | .degraded => 1
  | .unhealthy => 2

def text : Status → String
  | .healthy => "healthy"
  | .degraded => "degraded"
  | .unhealthy => "unhealthy"

def worse (a b : Status) : Status := if a.rank < b.rank then b else a

end Status

structure Component where
  status : Status
  message : Option String := none
  checked : Instant
deriving DecidableEq, Repr

structure Health where
  /-- Components by name. -/
  components : List (String × Component) := []
  serving : Bool := false
deriving DecidableEq, Repr

namespace Health

/-- The component of the cloud's API. -/
def apiName : String := "upstream_api"

def set (h : Health) (name : String) (c : Component) : Health :=
  { h with components := Json.put name c h.components }

def component? (h : Health) (name : String) : Option Component := h.components.lookup name

/-- Tracks a component, healthy at first. -/
def register (h : Health) (name : String) (now : Instant) : Health := h.set name ⟨.healthy,none,now⟩

/-- The cloud has accepted the credentials. -/
def credentialsVerified (h : Health) (now : Instant) : Health := h.set apiName ⟨.healthy,none,now⟩

/-- What the failures of a scrape say about the cloud. Refused credentials will be refused again. -/
def apiComponent (f : Faults) (now : Instant) : Component :=
  if 0 < f.rejected then
    ⟨.unhealthy,some (toString f.rejected ++
      " request(s) rejected during last scrape, check the access token"),now⟩
  else if 0 < f.unavailable then
    ⟨.degraded,some (toString f.unavailable ++ " request(s) unanswered during last scrape"),now⟩
  else ⟨.healthy,none,now⟩

def recordFaults (h : Health) (f : Faults) (now : Instant) : Health := h.set apiName (apiComponent f now)

/-- What the failures of a run say about a collector. -/
def collectionComponent (failures : Nat) (now : Instant) : Component :=
  if failures = 0 then ⟨.healthy,none,now⟩
  else ⟨.degraded,some (toString failures ++ " failure(s) during last scrape"),now⟩

def recordCollection (h : Health) (collector : String) (failures : Nat) (now : Instant) : Health :=
  h.set collector (collectionComponent failures now)

/-- The service has started. -/
def markReady (h : Health) : Health := { h with serving := true }

/-- The worst status of all components. -/
def overall (h : Health) : Status := h.components.foldl (fun s c => s.worse c.2.status) .healthy

/-- Why the service is not ready, if it is not. -/
def unreadiness? (h : Health) : Option String :=
  if !h.serving then some "Credentials not verified yet"
  else if (h.component? apiName).map (·.status) = some .unhealthy then
    some "Upstream API is rejecting requests"
  else none

def isReady (h : Health) : Bool := h.unreadiness?.isNone

def Component.toJson (c : Component) : Json :=
  .object ([("status",.string c.status.text)] ++ (c.message.map fun m => ("message",.string m)).toList
    ++ [("last_check_timestamp",.int c.checked.seconds)])

/-- The health as the service reports it. -/
def toJson (h : Health) : Json :=
  .object [("status",.string h.overall.text),
    ("components",.object (h.components.map fun c => (c.1,Component.toJson c.2)))]

/-- The readiness as the service reports it. -/
def readinessJson (h : Health) : Json :=
  .object ([("ready",.bool h.isReady)] ++ (h.unreadiness?.map fun r => ("reason",Json.string r)).toList)

end Health

end CloudMetrics.Service
