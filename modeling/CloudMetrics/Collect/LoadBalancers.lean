import CloudMetrics.Collect.Context

/-!
# Load balancers

The live status is always asked for and matched to the configured virtual addresses and servers by
address and port; the traffic of the first interface only while the load balancer is up.
-/
namespace CloudMetrics.Collect.LoadBalancers

open Cloud Metrics Time

def identLabels : List String := ["id","name","zone"]

def up : Gauge :=
  ⟨"sakuracloud_loadbalancer_up","If 1 the loadbalancer is up and running, 0 otherwise",identLabels⟩
def info : Gauge :=
  ⟨"sakuracloud_loadbalancer_info","A metric with a constant '1' value labeled by loadbalancer information",
    identLabels ++ ["plan","host","vrid","ipaddress","tags","description"]⟩

def vipLabels : List String := identLabels ++ ["vip_index","vip"]

def vipInfo : Gauge :=
  ⟨"sakuracloud_loadbalancer_vip_info","A metric with a constant '1' value labeled by vip information",
    vipLabels ++ ["port","interval","sorry_server","description"]⟩

def serverLabels : List String := vipLabels ++ ["server_index","ipaddress"]

def serverInfo : Gauge :=
  ⟨"sakuracloud_loadbalancer_server_info",
    "A metric with a constant '1' value labeled by real-server information",
    serverLabels ++ ["port","monitor","path","response_code"]⟩
def vipCps : Gauge := ⟨"sakuracloud_loadbalancer_vip_cps","Connection count per second",vipLabels⟩
def serverUp : Gauge :=
  ⟨"sakuracloud_loadbalancer_server_up","If 1 the real-server is up, 0 otherwise",serverLabels⟩
def serverConnection : Gauge :=
  ⟨"sakuracloud_loadbalancer_server_connection","Current connection count",serverLabels⟩
def serverCps : Gauge := ⟨"sakuracloud_loadbalancer_server_cps","Connection count per second",serverLabels⟩
def receive : Gauge :=
  ⟨"sakuracloud_loadbalancer_receive","Loadbalancer's receive bytes (unit: bps)",identLabels⟩
def send : Gauge := ⟨"sakuracloud_loadbalancer_send","Loadbalancer's send bytes (unit: bps)",identLabels⟩

def ident (item : Zoned LoadBalancer) : List String :=
  [item.resource.common.id,item.resource.common.name,item.zone]

/-- The labels of a virtual address. -/
def vipIdent (item : Zoned LoadBalancer) (vip : LoadBalancerVip) (index : Nat) : List String :=
  ident item ++ [toString index,vip.address]

/-- The labels of a server behind a virtual address. -/
def serverIdent (item : Zoned LoadBalancer) (vip : LoadBalancerVip) (index : Nat)
    (server : LoadBalancerServer) (serverIndex : Nat) : List String :=
  vipIdent item vip index ++ [toString serverIndex,server.ipAddress]

def vipRows (item : Zoned LoadBalancer) (vip : LoadBalancerVip) (index : Nat) : Batch :=
  vipInfo.info (vipIdent item vip index ++ [vip.port,vip.delayLoop,vip.sorryServer,vip.description])
    :: vip.servers.mapIdx fun i s => serverInfo.info (serverIdent item vip index s i ++
      [s.port,s.healthCheck.protocol,s.healthCheck.path,s.healthCheck.status])

/-- What the record says. -/
def rows (item : Zoned LoadBalancer) : Batch :=
  let l := item.resource
  [up.fill (boolValue l.common.isUp) (ident item),
    info.info (ident item ++ [l.common.plan.id,l.common.state.host.name,l.remark.vrrp.vrid,
      l.common.firstAddress,flattenTags l.common.tags,l.common.description])]
    ++ (l.settings.vips.mapIdx fun i vip => vipRows item vip i).flatten

/-- The first status of a configured virtual address. -/
def findVip (status : List LoadBalancerVipStatus) (vip : LoadBalancerVip) : Option LoadBalancerVipStatus :=
  status.find? fun s => s.address == vip.address && s.port == vip.port

/-- The first status of a configured server. -/
def findServer (status : List LoadBalancerServerStatus) (server : LoadBalancerServer) :
    Option LoadBalancerServerStatus :=
  status.find? fun s => s.ipAddress == server.ipAddress && s.port == server.port

def serverStatusRows (labels : List String) (full : labels.length = serverLabels.length)
    (s : LoadBalancerServerStatus) : Batch :=
  [serverUp.fill (boolValue s.isUp) labels full,serverConnection.fill s.activeConnections labels full,
    serverCps.fill s.connectionsPerSecond labels full]

def vipStatusRows (item : Zoned LoadBalancer) (vip : LoadBalancerVip) (index : Nat)
    (s : LoadBalancerVipStatus) : Batch :=
  vipCps.fill s.connectionsPerSecond (vipIdent item vip index)
    :: (vip.servers.mapIdx fun i server =>
      rowsOf (findServer s.servers server) (serverStatusRows (serverIdent item vip index server i) rfl)).flatten

/-- What the live status says about the configured addresses. -/
def statusRows (item : Zoned LoadBalancer) (status : List LoadBalancerVipStatus) : Batch :=
  (item.resource.settings.vips.mapIdx fun i vip =>
    rowsOf (findVip status vip) (vipStatusRows item vip i)).flatten

def trafficRows (item : Zoned LoadBalancer) (s : MonitorSample Traffic) : Batch :=
  [(receive.fill (s.value.receive*8) (ident item)).stamped s.time,
    (send.fill (s.value.send*8) (ident item)).stamped s.time]

/-- What the load balancer was asked for. -/
structure Readings where
  status : Option (List LoadBalancerVipStatus)
  traffic : Option (MonitorSample Traffic)

def readingRows (item : Zoned LoadBalancer) (r : Readings) : Batch :=
  rowsOf r.status (statusRows item) ++ rowsOf r.traffic (trafficRows item)

def readings (ctx : Context) (api : Api) (item : Zoned LoadBalancer) : Run Readings := do
  let id := item.resource.common.id
  let status ← ctx.fetch "status" id (.call api (.loadBalancerStatus item.zone id))
  let traffic ←
    if item.resource.common.isUp then
      ctx.settled "nic" id (.call api (.applianceTraffic item.zone id 0 ctx.window))
    else pure none
  return ⟨status,traffic⟩

/-- The batch of one load balancer. -/
def batch (ctx : Context) (api : Api) (item : Zoned LoadBalancer) : Run Batch := do
  return rows item ++ readingRows item (← readings ctx api item)

def collect (ctx : Context) (schedule : Schedule) (api : Api) : Run Unit :=
  ctx.collectEach schedule ctx.zones (fun z => .callZone api (.loadBalancers z)) (batch ctx api)

end CloudMetrics.Collect.LoadBalancers
