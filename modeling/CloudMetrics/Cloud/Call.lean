import CloudMetrics.Cloud.Account
import CloudMetrics.Cloud.Database
import CloudMetrics.Cloud.Fault
import CloudMetrics.Cloud.Internet
import CloudMetrics.Cloud.LoadBalancer
import CloudMetrics.Cloud.Monitor
import CloudMetrics.Cloud.Server
import CloudMetrics.Cloud.VpcRouter
import CloudMetrics.Json.Reader

/-!
# Calls to the cloud

Every call is a value: what is asked, in which zone, of which resource. From it follow the path and
the query of the request, the type of the answer, and how the answer is found in a body.
-/
namespace CloudMetrics.Cloud

open Json Time

/-- The zone through which resources without a zone are reached. -/
def globalZone : String := "is1a"

def defaultZones : List String := ["is1a","is1b","tk1a","tk1b","tk1v"]

inductive Call where
  | servers (zone : String)
  | serverCpu (zone id : String) (window : Window)
  | interfaceTraffic (zone id : String) (window : Window)
  | diskActivity (zone id : String) (window : Window)
  | applianceCpu (zone id : String) (window : Window)
  | applianceTraffic (zone id : String) (index : Nat) (window : Window)
  | databases (zone : String)
  | databaseDisk (zone id : String) (window : Window)
  | databaseUsage (zone id : String) (window : Window)
  | loadBalancers (zone : String)
  | loadBalancerStatus (zone id : String)
  | vpcRouters (zone : String)
  | vpcRouterStatus (zone id : String)
  | nfsAppliances (zone : String)
  | nfsFreeDisk (zone id : String) (window : Window)
  | internets (zone : String)
  | internetTraffic (zone id : String) (window : Window)
  | autoBackups (zone : String)
  | archives (zone backupId : String)
  | proxyLbs (zone : String)
  | proxyLbHealth (zone id : String)
  | proxyLbConnections (zone id : String) (window : Window)
  | authStatus
  | bills (account : String)
  | coupons (account : String)
deriving DecidableEq, Repr

namespace Call

@[reducible] def Answer : Call → Type
  | .servers _ => List Server
  | .serverCpu .. | .applianceCpu .. => List (MonitorSample CpuTime)
  | .interfaceTraffic .. | .applianceTraffic .. => List (MonitorSample Traffic)
  | .diskActivity .. | .databaseDisk .. => List (MonitorSample DiskActivity)
  | .databases _ => List Database
  | .databaseUsage .. => List (MonitorSample DatabaseUsage)
  | .loadBalancers _ => List LoadBalancer
  | .loadBalancerStatus .. => List LoadBalancerVipStatus
  | .vpcRouters _ => List VpcRouter
  | .vpcRouterStatus .. => VpcRouterStatus
  | .nfsAppliances _ => List Nfs
  | .nfsFreeDisk .. => List (MonitorSample FreeDisk)
  | .internets _ => List Internet
  | .internetTraffic .. => List (MonitorSample RouterTraffic)
  | .autoBackups _ => List AutoBackup
  | .archives .. => List Archive
  | .proxyLbs _ => List ProxyLb
  | .proxyLbHealth .. => ProxyLbHealth
  | .proxyLbConnections .. => List (MonitorSample Connections)
  | .authStatus => AuthStatus
  | .bills _ => List Bill
  | .coupons _ => List Coupon

def zone : Call → String
  | .servers zone | .serverCpu zone .. | .interfaceTraffic zone .. | .diskActivity zone ..
  | .applianceCpu zone .. | .applianceTraffic zone .. | .databases zone | .databaseDisk zone ..
  | .databaseUsage zone .. | .loadBalancers zone | .loadBalancerStatus zone .. | .vpcRouters zone
  | .vpcRouterStatus zone .. | .nfsAppliances zone | .nfsFreeDisk zone .. | .internets zone
  | .internetTraffic zone .. | .autoBackups zone | .archives zone .. | .proxyLbs zone
  | .proxyLbHealth zone .. | .proxyLbConnections zone .. => zone
  | .authStatus | .bills _ | .coupons _ => globalZone

/-- The path below the API's own path. -/
def path : Call → String
  | .servers _ => "server"
  | .serverCpu _ id _ => "server/" ++ id ++ "/monitor"
  | .interfaceTraffic _ id _ => "interface/" ++ id ++ "/monitor"
  | .diskActivity _ id _ => "disk/" ++ id ++ "/monitor"
  | .applianceCpu _ id _ => "appliance/" ++ id ++ "/cpu/monitor"
  | .applianceTraffic _ id index _ => "appliance/" ++ id ++ "/interface/" ++ toString index ++ "/monitor"
  | .databases _ | .loadBalancers _ | .vpcRouters _ | .nfsAppliances _ => "appliance"
  | .databaseDisk _ id _ => "appliance/" ++ id ++ "/disk/0/monitor"
  | .databaseUsage _ id _ => "appliance/" ++ id ++ "/database/monitor"
  | .loadBalancerStatus _ id | .vpcRouterStatus _ id => "appliance/" ++ id ++ "/status"
  | .nfsFreeDisk _ id _ => "appliance/" ++ id ++ "/nfs/monitor"
  | .internets _ => "internet"
  | .internetTraffic _ id _ => "internet/" ++ id ++ "/monitor"
  | .autoBackups _ | .proxyLbs _ => "commonserviceitem"
  | .archives .. => "archive"
  | .proxyLbHealth _ id => "commonserviceitem/" ++ id ++ "/health"
  | .proxyLbConnections _ id _ => "commonserviceitem/" ++ id ++ "/activity/proxylb/monitor"
  | .authStatus => "auth-status"
  | .bills account => "bill/by-contract/" ++ account
  | .coupons account => "coupon/" ++ account

/-- The most resources that one listing answers. -/
def listCount : Int := 10000

/-- The query of a listing: all resources, or those that a filter lets through. -/
def listQuery (filter : List (String × Json)) : Json :=
  .object ([("Count",.int listCount)]
    ++ (if filter.isEmpty then [] else [("Filter",.object filter)]) ++ [("From",.int 0)])

def windowQuery (w : Window) : Json :=
  .object [("End",.string w.stop.write),("Start",.string w.start.write)]

/-- The tag that the archives of a backup schedule carry. -/
def archiveTag (backupId : String) : String := "autobackup-" ++ backupId

/-- The query; its members stand in the order of their names. -/
def query? : Call → Option Json
  | .servers _ | .internets _ => some (listQuery [])
  | .databases _ => some (listQuery [("Class",.string "database")])
  | .loadBalancers _ => some (listQuery [("Class",.string "loadbalancer")])
  | .vpcRouters _ => some (listQuery [("Class",.string "vpcrouter")])
  | .nfsAppliances _ => some (listQuery [("Class",.string "nfs")])
  | .autoBackups _ => some (listQuery [("Provider.Class",.string "autobackup")])
  | .proxyLbs _ => some (listQuery [("Provider.Class",.string "proxylb")])
  | .archives _ id => some (listQuery [("Tags.Name",.array [.string (archiveTag id)])])
  | .serverCpu _ _ w | .interfaceTraffic _ _ w | .diskActivity _ _ w | .applianceCpu _ _ w
  | .applianceTraffic _ _ _ w | .databaseDisk _ _ w | .databaseUsage _ _ w | .nfsFreeDisk _ _ w
  | .internetTraffic _ _ w | .proxyLbConnections _ _ w => some (windowQuery w)
  | .loadBalancerStatus .. | .vpcRouterStatus .. | .proxyLbHealth .. | .authStatus | .bills _
  | .coupons _ => none

/-- A whole body, read for some members only. -/
def decodeBody {α : Type} (shape : Shape α) (body : List UInt8) : Except DecodeCause α :=
  match Json.read .selective body with
  | .error f => .error (.malformed (f.message body))
  | .ok v =>
    match shape.read v with
    | some a => .ok a
    | none => .error .mismatched

/-- One member of a body; missing or null it is the default. -/
def decodeMember {α : Type} (name : String) (missing : α) (shape : Shape α) (body : List UInt8) :
    Except DecodeCause α :=
  match Json.read .whole body with
  | .error f => .error (.malformed (f.message body))
  | .ok v =>
    match v.field? name with
    | none | some .null => .ok missing
    | some m =>
      match shape.read m with
      | some a => .ok a
      | none => .error .mismatched

def decodeList {α : Type} (name : String) (item : Shape α) : List UInt8 → Except DecodeCause (List α) :=
  decodeMember name [] (.list item)

def decodeMonitor (V : Type) [MonitorValue V] (body : List UInt8) :
    Except DecodeCause (List (MonitorSample V)) :=
  (decodeBody MonitorPoints.shape body).map (MonitorPoints.samples V)

/-- The answer that a body holds. -/
def decode : (c : Call) → List UInt8 → Except DecodeCause c.Answer
  | .servers _ => decodeList "Servers" Server.shape
  | .serverCpu .. | .applianceCpu .. => decodeMonitor CpuTime
  | .interfaceTraffic .. | .applianceTraffic .. => decodeMonitor Traffic
  | .diskActivity .. | .databaseDisk .. => decodeMonitor DiskActivity
  | .databases _ => decodeList "Appliances" Database.shape
  | .databaseUsage .. => decodeMonitor DatabaseUsage
  | .loadBalancers _ => decodeList "Appliances" LoadBalancer.shape
  | .loadBalancerStatus .. => decodeList "LoadBalancer" LoadBalancerVipStatus.shape
  | .vpcRouters _ => decodeList "Appliances" VpcRouter.shape
  | .vpcRouterStatus .. => decodeMember "Router" {} VpcRouterStatus.shape
  | .nfsAppliances _ => decodeList "Appliances" Nfs.shape
  | .nfsFreeDisk .. => decodeMonitor FreeDisk
  | .internets _ => decodeList "Internet" Internet.shape
  | .internetTraffic .. => decodeMonitor RouterTraffic
  | .autoBackups _ => decodeList "CommonServiceItems" AutoBackup.shape
  | .archives .. => decodeList "Archives" Archive.shape
  | .proxyLbs _ => decodeList "CommonServiceItems" ProxyLb.shape
  | .proxyLbHealth .. => decodeMember "ProxyLB" {} ProxyLbHealth.shape
  | .proxyLbConnections .. => decodeMonitor Connections
  | .authStatus => decodeBody AuthStatus.shape
  | .bills _ => decodeList "Bills" Bill.shape
  | .coupons _ => decodeList "Coupons" Coupon.shape

end Call

/-- The cloud as its users see it: an answer or an error for every call. -/
abbrev Api := (c : Call) → Except ApiError c.Answer

end CloudMetrics.Cloud
