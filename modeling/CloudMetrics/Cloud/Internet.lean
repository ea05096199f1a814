import CloudMetrics.Cloud.Resource

/-!
# Network edges

Internet connections with their switch, and the load balancers that stand before all zones.
-/
namespace CloudMetrics.Cloud

open Json

/-- An internet connection. -/
structure Internet where
  id : String
  name : String := ""
  description : String := ""
  tags : List String := []
  bandWidthMbps : String := ""
  networkMaskLength : String := ""
  switch : NamedRef := {}
deriving DecidableEq, Repr, Inhabited

def Internet.shape : Shape Internet :=
  .record (Fields.start Internet.mk |>.requiredText "ID" |>.text "Name" |>.text "Description"
    |>.list "Tags" .string |>.text "BandWidthMbps" |>.text "NetworkMaskLen"
    |>.nested "Switch" {} NamedRef.shape)

structure BindPort where
  proxyMode : String := ""
  port : String := ""
deriving DecidableEq, Repr, Inhabited

def BindPort.shape : Shape BindPort := .record (Fields.start BindPort.mk |>.text "ProxyMode" |>.text "Port")

structure ProxyLbServer where
  ipAddress : String := ""
  port : String := ""
  enabled : String := ""
deriving DecidableEq, Repr, Inhabited

def ProxyLbServer.shape : Shape ProxyLbServer :=
  .record (Fields.start ProxyLbServer.mk |>.text "IPAddress" |>.text "Port" |>.text "Enabled")

structure ProxyLbHealthCheck where
  protocol : String := ""
  path : String := ""
  delayLoop : String := ""
deriving DecidableEq, Repr, Inhabited

def ProxyLbHealthCheck.shape : Shape ProxyLbHealthCheck :=
  .record (Fields.start ProxyLbHealthCheck.mk |>.text "Protocol" |>.text "Path" |>.text "DelayLoop")

structure ProxyLbSpec where
  bindPorts : List BindPort := []
  servers : List ProxyLbServer := []
  healthCheck : ProxyLbHealthCheck := {}
deriving DecidableEq, Repr, Inhabited

def ProxyLbSpec.shape : Shape ProxyLbSpec :=
  .record (Fields.start ProxyLbSpec.mk |>.list "BindPorts" BindPort.shape
    |>.list "Servers" ProxyLbServer.shape |>.nested "HealthCheck" {} ProxyLbHealthCheck.shape)

structure ProxyLbSettings where
  spec : ProxyLbSpec := {}
deriving DecidableEq, Repr, Inhabited

def ProxyLbSettings.shape : Shape ProxyLbSettings :=
  .record (Fields.start ProxyLbSettings.mk |>.nested "ProxyLB" {} ProxyLbSpec.shape)

structure ProxyLbStatus where
  fqdn : String := ""
  region : String := ""
  proxyNetworks : List String := []
deriving DecidableEq, Repr, Inhabited

def ProxyLbStatus.shape : Shape ProxyLbStatus :=
  .record (Fields.start ProxyLbStatus.mk |>.text "FQDN" |>.text "Region" |>.list "ProxyNetworks" .string)

/-- A load balancer that belongs to no zone. -/
structure ProxyLb where
  id : String
  name : String := ""
  description : String := ""
  tags : List String := []
  availability : String := ""
  serviceClass : String := ""
  settings : ProxyLbSettings := {}
  status : ProxyLbStatus := {}
deriving DecidableEq, Repr, Inhabited

namespace ProxyLb

def shape : Shape ProxyLb :=
  .record (Fields.start ProxyLb.mk |>.requiredText "ID" |>.text "Name" |>.text "Description"
    |>.list "Tags" .string |>.text "Availability" |>.text "ServiceClass"
    |>.nested "Settings" {} ProxyLbSettings.shape |>.nested "Status" {} ProxyLbStatus.shape)

def isAvailable (p : ProxyLb) : Bool := p.availability == "available"

/-- The plan in connections per second: the last segment of the service class. -/
def planCps (p : ProxyLb) : String :=
  String.ofList (p.serviceClass.toList.reverse.takeWhile (· ≠ '/')).reverse

end ProxyLb

/-- The live health of a server behind a load balancer. -/
structure ProxyLbServerHealth where
  ipAddress : String := ""
  port : String := ""
  status : String := ""
  activeConnections : Float := 0
  connectionsPerSecond : Float := 0
deriving Repr, Inhabited

def ProxyLbServerHealth.shape : Shape ProxyLbServerHealth :=
  .record (Fields.start ProxyLbServerHealth.mk |>.text "IPAddress" |>.text "Port" |>.text "Status"
    |>.number "ActiveConn" |>.number "CPS")

def ProxyLbServerHealth.isUp (s : ProxyLbServerHealth) : Bool := sameIgnoringCase s.status "up"

structure ProxyLbHealth where
  activeConnections : Float := 0
  connectionsPerSecond : Float := 0
  currentVip : String := ""
  servers : List ProxyLbServerHealth := []
deriving Repr, Inhabited

def ProxyLbHealth.shape : Shape ProxyLbHealth :=
  .record (Fields.start ProxyLbHealth.mk |>.number "ActiveConn" |>.number "CPS" |>.text "CurrentVIP"
    |>.list "Servers" ProxyLbServerHealth.shape)

end CloudMetrics.Cloud
