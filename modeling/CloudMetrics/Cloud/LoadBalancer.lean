import CloudMetrics.Cloud.Resource

/-!
# Load balancer appliances

The configured virtual addresses with their servers, and the live status of both.
-/
namespace CloudMetrics.Cloud

open Json

structure LoadBalancerHealthCheck where
  protocol : String := ""
  path : String := ""
  status : String := ""
deriving DecidableEq, Repr, Inhabited

def LoadBalancerHealthCheck.shape : Shape LoadBalancerHealthCheck :=
  .record (Fields.start LoadBalancerHealthCheck.mk |>.text "Protocol" |>.text "Path" |>.text "Status")

structure LoadBalancerServer where
  ipAddress : String := ""
  port : String := ""
  healthCheck : LoadBalancerHealthCheck := {}
  enabled : String := ""
deriving DecidableEq, Repr, Inhabited

def LoadBalancerServer.shape : Shape LoadBalancerServer :=
  .record (Fields.start LoadBalancerServer.mk |>.text "IPAddress" |>.text "Port"
    |>.nested "HealthCheck" {} LoadBalancerHealthCheck.shape |>.text "Enabled")

/-- A virtual address. -/
structure LoadBalancerVip where
  address : String := ""
  port : String := ""
  delayLoop : String := ""
  sorryServer : String := ""
  description : String := ""
  servers : List LoadBalancerServer := []
deriving DecidableEq, Repr, Inhabited

def LoadBalancerVip.shape : Shape LoadBalancerVip :=
  .record (Fields.start LoadBalancerVip.mk |>.text "VirtualIPAddress" |>.text "Port" |>.text "DelayLoop"
    |>.text "SorryServer" |>.text "Description" |>.list "Servers" LoadBalancerServer.shape)

structure Vrrp where
  vrid : String := ""
deriving DecidableEq, Repr, Inhabited

def Vrrp.shape : Shape Vrrp := .record (Fields.start Vrrp.mk |>.text "VRID")

structure LoadBalancerRemark where
  vrrp : Vrrp := {}
deriving DecidableEq, Repr, Inhabited

def LoadBalancerRemark.shape : Shape LoadBalancerRemark :=
  .record (Fields.start LoadBalancerRemark.mk |>.nested "VRRP" {} Vrrp.shape)

structure LoadBalancerSettings where
  vips : List LoadBalancerVip := []
deriving DecidableEq, Repr, Inhabited

def LoadBalancerSettings.shape : Shape LoadBalancerSettings :=
  .record (Fields.start LoadBalancerSettings.mk |>.list "LoadBalancer" LoadBalancerVip.shape)

structure LoadBalancer where
  common : Appliance
  remark : LoadBalancerRemark := {}
  settings : LoadBalancerSettings := {}
deriving DecidableEq, Repr, Inhabited

def LoadBalancer.shape : Shape LoadBalancer :=
  .joined (Fields.start LoadBalancer.mk |>.join Appliance.fields
    |>.nested "Remark" {} LoadBalancerRemark.shape |>.nested "Settings" {} LoadBalancerSettings.shape)

/-- The live status of a server behind a virtual address. -/
structure LoadBalancerServerStatus where
  ipAddress : String := ""
  port : String := ""
  status : String := ""
  activeConnections : Float := 0
  connectionsPerSecond : Float := 0
deriving Repr, Inhabited

def LoadBalancerServerStatus.shape : Shape LoadBalancerServerStatus :=
  .record (Fields.start LoadBalancerServerStatus.mk |>.text "IPAddress" |>.text "Port" |>.text "Status"
    |>.number "ActiveConn" |>.number "CPS")

def LoadBalancerServerStatus.isUp (s : LoadBalancerServerStatus) : Bool := sameIgnoringCase s.status "up"

/-- The live status of a virtual address. -/
structure LoadBalancerVipStatus where
  address : String := ""
  port : String := ""
  connectionsPerSecond : Float := 0
  servers : List LoadBalancerServerStatus := []
deriving Repr, Inhabited

def LoadBalancerVipStatus.shape : Shape LoadBalancerVipStatus :=
  .record (Fields.start LoadBalancerVipStatus.mk |>.text "VirtualIPAddress" |>.text "Port"
    |>.number "CPS" |>.list "Servers" LoadBalancerServerStatus.shape)

end CloudMetrics.Cloud
