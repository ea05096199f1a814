import CloudMetrics.Collect.Context

/-!
# Servers

What a server is, always; how its processor, interfaces and disks are used, while it is up.
-/
namespace CloudMetrics.Collect.Servers

open Cloud Metrics Time

def identLabels : List String := ["id","name","zone"]

def up : Gauge := ⟨"sakuracloud_server_up","If 1 the server is up and running, 0 otherwise",identLabels⟩
def cpus : Gauge := ⟨"sakuracloud_server_cpus","Number of server's vCPU cores",identLabels⟩
def memories : Gauge := ⟨"sakuracloud_server_memories","Size of server's memories (unit: GB)",identLabels⟩
def info : Gauge :=
  ⟨"sakuracloud_server_info","A metric with a constant '1' value labeled by server information",
    identLabels ++ ["cpus","disks","nics","memories","host","commitment","tags","description"]⟩
def nicInfo : Gauge :=
  ⟨"sakuracloud_server_nic_info","A metric with a constant '1' value labeled by nic information",
    identLabels ++ ["interface_id","nic_index","upstream_type","upstream_id","upstream_name","ipaddress"]⟩
def diskInfo : Gauge :=
  ⟨"sakuracloud_server_disk_info","A metric with a constant '1' value labeled by disk information",
    identLabels ++ ["disk_id","disk_name","index","plan","connection","size"]⟩
def cpuTime : Gauge := ⟨"sakuracloud_server_cpu_time","Server's CPU time (unit: ms)",identLabels⟩

def nicLabels : List String := identLabels ++ ["interface_id","nic_index"]

def nicReceive : Gauge := ⟨"sakuracloud_server_nic_receive","NIC's receive bytes (unit: bps)",nicLabels⟩
def nicSend : Gauge := ⟨"sakuracloud_server_nic_send","NIC's send bytes (unit: bps)",nicLabels⟩

def diskLabels : List String := identLabels ++ ["disk_id","disk_name","index"]

def diskRead : Gauge := ⟨"sakuracloud_server_disk_read","Disk's read bytes (unit: Bps)",diskLabels⟩
def diskWrite : Gauge := ⟨"sakuracloud_server_disk_write","Disk's write bytes (unit: Bps)",diskLabels⟩

def ident (item : Zoned Server) : List String := [item.resource.id,item.resource.name,item.zone]

def nicRow (item : Zoned Server) (nic : Interface) (index : Nat) : Sample :=
  let (id,name) := match nic.switch with
    | some s => (s.id,s.name)
    | none => ("","")
  nicInfo.info (ident item ++ [nic.id,toString index,nic.connection,id,name,nic.address])

def diskRow (item : Zoned Server) (disk : ServerDisk) (index : Nat) : Sample :=
  diskInfo.info (ident item ++
    [disk.id,disk.name,toString index,disk.plan.name,disk.connection,toString (disk.sizeMb/1024)])

/-- What the record says. -/
def rows (item : Zoned Server) : Batch :=
  let s := item.resource
  [up.fill (boolValue s.isUp) (ident item),
    cpus.fill (Float.ofNat s.plan.cpu) (ident item),
    memories.fill (Float.ofNat s.plan.memoryMb/1024) (ident item),
    info.info (ident item ++ [toString s.plan.cpu,toString s.disks.length,toString s.interfaces.length,
      toString (s.plan.memoryMb/1024),s.state.host.name,s.plan.commitment,flattenTags s.tags,
      s.description])]
    ++ s.interfaces.mapIdx (fun i nic => nicRow item nic i)
    ++ s.disks.mapIdx (fun i disk => diskRow item disk i)

/-- The settled samples of the monitors, in the order of the record's lists. -/
structure Readings where
  cpu : Option (MonitorSample CpuTime)
  nics : List (Option (MonitorSample Traffic))
  disks : List (Option (MonitorSample DiskActivity))

def cpuRows (item : Zoned Server) (s : MonitorSample CpuTime) : Batch :=
  [(cpuTime.fill (s.value.cpuTime*1000) (ident item)).stamped s.time]

def trafficRows (item : Zoned Server) (nic : Interface) (index : Nat) (s : MonitorSample Traffic) : Batch :=
  let labels := ident item ++ [nic.id,toString index]
  [(nicReceive.fill (s.value.receive*8) labels).stamped s.time,
    (nicSend.fill (s.value.send*8) labels).stamped s.time]

def activityRows (item : Zoned Server) (disk : ServerDisk) (index : Nat) (s : MonitorSample DiskActivity) :
    Batch :=
  let labels := ident item ++ [disk.id,disk.name,toString index]
  [(diskRead.fill s.value.read labels).stamped s.time,
    (diskWrite.fill s.value.write labels).stamped s.time]

/-- What the monitors say. -/
def readingRows (item : Zoned Server) (r : Readings) : Batch :=
  rowsOf r.cpu (cpuRows item)
    ++ ((item.resource.interfaces.zip r.nics).mapIdx fun i p => rowsOf p.2 (trafficRows item p.1 i)).flatten
    ++ ((item.resource.disks.zip r.disks).mapIdx fun i p => rowsOf p.2 (activityRows item p.1 i)).flatten

/-- Asks the monitors of a server that is up. -/
def readings (ctx : Context) (api : Api) (item : Zoned Server) : Run Readings := do
  let s := item.resource
  let cpu ← ctx.settled "cpu_time" s.id (.call api (.serverCpu item.zone s.id ctx.window))
  let nics ← Run.sequence (s.interfaces.map fun nic =>
    ctx.settled "nic" nic.id (.call api (.interfaceTraffic item.zone nic.id ctx.window)))
  let disks ← Run.sequence (s.disks.map fun disk =>
    ctx.settled "disk" disk.id (.call api (.diskActivity item.zone disk.id ctx.window)))
  return ⟨cpu,nics,disks⟩

/-- The batch of one server. -/
def batch (ctx : Context) (api : Api) (item : Zoned Server) : Run Batch :=
  if item.resource.isUp then do return rows item ++ readingRows item (← readings ctx api item)
  else pure (rows item)

def collect (ctx : Context) (schedule : Schedule) (api : Api) : Run Unit :=
  ctx.collectEach schedule ctx.zones (fun z => .callZone api (.servers z)) (batch ctx api)

end CloudMetrics.Collect.Servers
