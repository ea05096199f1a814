import CloudMetrics.Collect.Context

/-!
# Routers of private networks

The live status is always asked for. While a router is up its processor is asked for too, and every
interface that is attached to a switch, under its place in the full list of interfaces.
-/
namespace CloudMetrics.Collect.VpcRouters

open Cloud Metrics Time

def identLabels : List String := ["id","name","zone"]

def up : Gauge := ⟨"sakuracloud_vpc_router_up","If 1 the vpc_router is up and running, 0 otherwise",identLabels⟩
def info : Gauge :=
  ⟨"sakuracloud_vpc_router_info","A metric with a constant '1' value labeled by vpc_router information",
    identLabels ++ ["plan","host","ha","vrid","vip","ipaddress1","ipaddress2","nw_mask_len","tags",
      "description"]⟩
def sessionCount : Gauge := ⟨"sakuracloud_vpc_router_session_count","Current session count",identLabels⟩
def dhcpLeaseCount : Gauge :=
  ⟨"sakuracloud_vpc_router_dhcp_lease_count","Current DHCP lease count",identLabels⟩
def l2tpSessionCount : Gauge :=
  ⟨"sakuracloud_vpc_router_l2tp_session_count","Current L2TP-IPsec session count",identLabels⟩
def pptpSessionCount : Gauge :=
  ⟨"sakuracloud_vpc_router_pptp_session_count","Current PPTP session count",identLabels⟩
def peerStatus : Gauge :=
  ⟨"sakuracloud_vpc_router_site_to_site_peer_status",
    "The status of site-to-site IPsec VPN peer. If 1 the peer is up, 0 otherwise",
    identLabels ++ ["peer_index","peer_address"]⟩
def cpuTime : Gauge := ⟨"sakuracloud_vpc_router_cpu_time","VPCRouter's CPU time (unit: ms)",identLabels⟩

def nicLabels : List String := identLabels ++ ["nic_index","vip","ipaddress","nw_mask_len"]

def receive : Gauge := ⟨"sakuracloud_vpc_router_receive","VPCRouter's receive bytes (unit: bps)",nicLabels⟩
def send : Gauge := ⟨"sakuracloud_vpc_router_send","VPCRouter's send bytes (unit: bps)",nicLabels⟩

def ident (item : Zoned VpcRouter) : List String :=
  [item.resource.common.id,item.resource.common.name,item.zone]

/-- The settings of an interface slot; a slot that is null or missing has none. -/
def slot? (r : VpcRouter) (index : Nat) : Option VpcRouterInterface :=
  (r.settings.router.interfaces[index]?).join

/-- The virtual address of a slot. -/
def slotVip (s : Option VpcRouterInterface) : String := (s.map (·.virtualIpAddress)).getD ""

/-- An address of a slot. -/
def slotAddress (s : Option VpcRouterInterface) (i : Nat) : String := (s.bind fun s => s.ipAddress[i]?).getD ""

/-- The network mask of a slot. -/
def slotMask (s : Option VpcRouterInterface) : String := (s.map (·.networkMaskLength)).getD ""

/-- What the record says. -/
def rows (item : Zoned VpcRouter) : Batch :=
  let r := item.resource
  let first := slot? r 0
  let vrid := r.settings.router.vrid
  [up.fill (boolValue r.common.isUp) (ident item),
    info.info (ident item ++ [r.planName,r.common.state.host.name,if vrid = "" then "0" else "1",vrid,
      slotVip first,slotAddress first 0,slotAddress first 1,slotMask first,flattenTags r.common.tags,
      r.common.description])]

def isOn (flag : Option EnabledFlag) : Bool := flag.any EnabledFlag.isEnabled

/-- The configured far ends. -/
def peers (r : VpcRouter) : List PeerSetting := (r.settings.router.siteToSite.map (·.peers)).getD []

/-- Some status says that the peer is up. -/
def peerIsUp (status : List PeerStatus) (peer : PeerSetting) : Bool :=
  status.any fun s => s.peer == peer.peer && sameIgnoringCase s.status "up"

/-- What the live status says. -/
def statusRows (item : Zoned VpcRouter) (s : VpcRouterStatus) : Batch :=
  let settings := item.resource.settings.router
  [sessionCount.fill s.sessionCount (ident item),
    dhcpLeaseCount.fill (Float.ofNat s.dhcpLeases.length) (ident item)]
    ++ (if isOn settings.l2tpServer then
      [l2tpSessionCount.fill (Float.ofNat s.l2tpSessions.length) (ident item)] else [])
    ++ (if isOn settings.pptpServer then
      [pptpSessionCount.fill (Float.ofNat s.pptpSessions.length) (ident item)] else [])
    ++ (peers item.resource).mapIdx fun i peer =>
      peerStatus.fill (boolValue (peerIsUp s.peers peer)) (ident item ++ [toString i,peer.peer])

def cpuRows (item : Zoned VpcRouter) (s : MonitorSample CpuTime) : Batch :=
  [(cpuTime.fill (s.value.cpuTime*1000) (ident item)).stamped s.time]

/-- The places of the interfaces that are attached to a switch, ascending. -/
def attached (a : Appliance) : List Nat :=
  (a.interfaces.mapIdx fun i nic => if nic.switch.isSome then some i else none).filterMap id

def trafficRows (item : Zoned VpcRouter) (index : Nat) (s : MonitorSample Traffic) : Batch :=
  let slot := slot? item.resource index
  let labels := ident item ++ [toString index,slotVip slot,slotAddress slot 0,slotMask slot]
  [(receive.fill (s.value.receive*8) labels).stamped s.time,
    (send.fill (s.value.send*8) labels).stamped s.time]

/-- What the router was asked for; the traffic of an interface with its place. -/
structure Readings where
  status : Option VpcRouterStatus
  cpu : Option (MonitorSample CpuTime) := none
  nics : List (Nat × Option (MonitorSample Traffic)) := []

def readingRows (item : Zoned VpcRouter) (r : Readings) : Batch :=
  rowsOf r.status (statusRows item) ++ rowsOf r.cpu (cpuRows item)
    ++ r.nics.flatMap fun p => rowsOf p.2 (trafficRows item p.1)

def readings (ctx : Context) (api : Api) (item : Zoned VpcRouter) : Run Readings := do
  let a := item.resource.common
  let status ← ctx.fetch "status" a.id (.call api (.vpcRouterStatus item.zone a.id))
  if a.isUp then
    let cpu ← ctx.settled "cpu_time" a.id (.call api (.applianceCpu item.zone a.id ctx.window))
    let nics ← Run.sequence ((attached a).map fun i => do
      let s ← ctx.settled "nic" a.id (.call api (.applianceTraffic item.zone a.id i ctx.window))
      return (i,s))
    return ⟨status,cpu,nics⟩
  else return { status }

/-- The batch of one router. -/
def batch (ctx : Context) (api : Api) (item : Zoned VpcRouter) : Run Batch := do
  return rows item ++ readingRows item (← readings ctx api item)

def collect (ctx : Context) (schedule : Schedule) (api : Api) : Run Unit :=
  ctx.collectEach schedule ctx.zones (fun z => .callZone api (.vpcRouters z)) (batch ctx api)

end CloudMetrics.Collect.VpcRouters
