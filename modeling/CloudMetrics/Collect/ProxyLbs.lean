import CloudMetrics.Collect.Context

/-!
# Load balancers of no zone

They are listed once, through the global zone, and carry no zone label. The health of their servers is
always asked for; the connections only while a load balancer is available.
-/
namespace CloudMetrics.Collect.ProxyLbs

open Cloud Metrics Time

def identLabels : List String := ["id","name"]

def up : Gauge := ⟨"sakuracloud_proxylb_up","If 1 the ProxyLB is available, 0 otherwise",identLabels⟩
def info : Gauge :=
  ⟨"sakuracloud_proxylb_info","A metric with a constant '1' value labeled by ProxyLB information",
    identLabels ++ ["plan","fqdn","region","proxy_networks","health_check_protocol","tags","description"]⟩
def bindPortInfo : Gauge :=
  ⟨"sakuracloud_proxylb_bind_port_info",
    "A metric with a constant '1' value labeled by bind port information",
    identLabels ++ ["bind_port_index","proxy_mode","port"]⟩

def serverLabels : List String := identLabels ++ ["server_index","ipaddress","port"]

def serverInfo : Gauge :=
  ⟨"sakuracloud_proxylb_server_info",
    "A metric with a constant '1' value labeled by real-server information",serverLabels ++ ["enabled"]⟩
def serverUp : Gauge :=
  ⟨"sakuracloud_proxylb_server_up","If 1 the real-server is up, 0 otherwise",serverLabels⟩
def activeConnections : Gauge :=
  ⟨"sakuracloud_proxylb_active_connections","Active connection count",identLabels⟩
def connectionPerSec : Gauge :=
  ⟨"sakuracloud_proxylb_connection_per_sec","Connection count per second",identLabels⟩

def ident (item : Zoned ProxyLb) : List String := [item.resource.id,item.resource.name]

/-- The labels of a server. -/
def serverIdent (item : Zoned ProxyLb) (server : ProxyLbServer) (index : Nat) : List String :=
  ident item ++ [toString index,server.ipAddress,server.port]

/-- What the record says. -/
def rows (item : Zoned ProxyLb) : Batch :=
  let p := item.resource
  let spec := p.settings.spec
  [up.fill (boolValue p.isAvailable) (ident item),
    info.info (ident item ++ [p.planCps,p.status.fqdn,p.status.region,
      String.intercalate "," p.status.proxyNetworks,spec.healthCheck.protocol,flattenTags p.tags,
      p.description])]
    ++ spec.bindPorts.mapIdx (fun i b => bindPortInfo.info (ident item ++ [toString i,b.proxyMode,b.port]))
    ++ spec.servers.mapIdx (fun i s => serverInfo.info (serverIdent item s i ++ [s.enabled]))

/-- The first health of a configured server. -/
def findServer (health : List ProxyLbServerHealth) (server : ProxyLbServer) : Option ProxyLbServerHealth :=
  health.find? fun s => s.ipAddress == server.ipAddress && s.port == server.port

/-- What the live health says about the configured servers. -/
def healthRows (item : Zoned ProxyLb) (h : ProxyLbHealth) : Batch :=
  item.resource.settings.spec.servers.mapIdx fun i s =>
    serverUp.fill (boolValue ((findServer h.servers s).any ProxyLbServerHealth.isUp)) (serverIdent item s i)

def connectionRows (item : Zoned ProxyLb) (s : MonitorSample Connections) : Batch :=
  [(activeConnections.fill s.value.active (ident item)).stamped s.time,
    (connectionPerSec.fill s.value.perSecond (ident item)).stamped s.time]

/-- What the load balancer was asked for. -/
structure Readings where
  health : Option ProxyLbHealth
  connections : Option (MonitorSample Connections)

def readingRows (item : Zoned ProxyLb) (r : Readings) : Batch :=
  rowsOf r.health (healthRows item) ++ rowsOf r.connections (connectionRows item)

def readings (ctx : Context) (api : Api) (item : Zoned ProxyLb) : Run Readings := do
  let id := item.resource.id
  let health ← ctx.fetch "health" id (.call api (.proxyLbHealth item.zone id))
  let connections ←
    if item.resource.isAvailable then
      ctx.settled "connections" id (.call api (.proxyLbConnections item.zone id ctx.window))
    else pure none
  return ⟨health,connections⟩

/-- The batch of one load balancer. -/
def batch (ctx : Context) (api : Api) (item : Zoned ProxyLb) : Run Batch := do
  return rows item ++ readingRows item (← readings ctx api item)

def collect (ctx : Context) (schedule : Schedule) (api : Api) : Run Unit :=
  ctx.collectEach schedule [globalZone] (fun z => .callZone api (.proxyLbs z)) (batch ctx api)

end CloudMetrics.Collect.ProxyLbs
