import CloudMetrics.Collect.Context

/-!
# File servers

A file server that is up is asked for its free disk space and its first interface.
-/
namespace CloudMetrics.Collect.FileServers

open Cloud Metrics Time

def identLabels : List String := ["id","name","zone"]

def up : Gauge := ⟨"sakuracloud_nfs_up","If 1 the NFS is up and running, 0 otherwise",identLabels⟩
def info : Gauge :=
  ⟨"sakuracloud_nfs_info","A metric with a constant '1' value labeled by NFS information",
    identLabels ++ ["plan","host","ipaddress","tags","description"]⟩
def freeDiskSize : Gauge := ⟨"sakuracloud_nfs_free_disk_size","NFS's free disk size (unit: KB)",identLabels⟩
def nicReceive : Gauge := ⟨"sakuracloud_nfs_nic_receive","NIC's receive bytes (unit: bps)",identLabels⟩
def nicSend : Gauge := ⟨"sakuracloud_nfs_nic_send","NIC's send bytes (unit: bps)",identLabels⟩

def ident (item : Zoned Nfs) : List String := [item.resource.common.id,item.resource.common.name,item.zone]

/-- What the record says. -/
def rows (item : Zoned Nfs) : Batch :=
  let a := item.resource.common
  [up.fill (boolValue a.isUp) (ident item),
    info.info (ident item ++ [a.plan.id,a.state.host.name,a.firstAddress,flattenTags a.tags,a.description])]

/-- The settled samples of the monitors. -/
structure Readings where
  free : Option (MonitorSample FreeDisk)
  nic : Option (MonitorSample Traffic)

def freeRows (item : Zoned Nfs) (s : MonitorSample FreeDisk) : Batch :=
  [(freeDiskSize.fill s.value.freeDiskSize (ident item)).stamped s.time]

def trafficRows (item : Zoned Nfs) (s : MonitorSample Traffic) : Batch :=
  [(nicReceive.fill (s.value.receive*8) (ident item)).stamped s.time,
    (nicSend.fill (s.value.send*8) (ident item)).stamped s.time]

def readingRows (item : Zoned Nfs) (r : Readings) : Batch :=
  rowsOf r.free (freeRows item) ++ rowsOf r.nic (trafficRows item)

/-- Asks the monitors of a file server that is up. -/
def readings (ctx : Context) (api : Api) (item : Zoned Nfs) : Run Readings := do
  let id := item.resource.common.id
  let free ← ctx.settled "free_disk_size" id (.call api (.nfsFreeDisk item.zone id ctx.window))
  let nic ← ctx.settled "nic" id (.call api (.applianceTraffic item.zone id 0 ctx.window))
  return ⟨free,nic⟩

/-- The batch of one file server. -/
def batch (ctx : Context) (api : Api) (item : Zoned Nfs) : Run Batch :=
  if item.resource.common.isUp then do return rows item ++ readingRows item (← readings ctx api item)
  else pure (rows item)

def collect (ctx : Context) (schedule : Schedule) (api : Api) : Run Unit :=
  ctx.collectEach schedule ctx.zones (fun z => .callZone api (.nfsAppliances z)) (batch ctx api)

end CloudMetrics.Collect.FileServers
