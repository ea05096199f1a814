import CloudMetrics.Collect.Context

/-!
# Databases

A database that is up is asked for its processor, its first interface, its first disk and its usage.
-/
namespace CloudMetrics.Collect.Databases

open Cloud Metrics Time

def identLabels : List String := ["id","name","zone"]

def up : Gauge := ⟨"sakuracloud_database_up","If 1 the database is up and running, 0 otherwise",identLabels⟩
def info : Gauge :=
  ⟨"sakuracloud_database_info","A metric with a constant '1' value labeled by database information",
    identLabels ++ ["plan","host","database_type","database_version","database_revision","web_ui",
      "replication_enabled","replication_role","tags","description"]⟩
def cpuTime : Gauge := ⟨"sakuracloud_database_cpu_time","Database's CPU time (unit: ms)",identLabels⟩
def memorySize : Gauge :=
  ⟨"sakuracloud_database_memory_size","Database's total memory size (unit: MB)",identLabels⟩
def memoryUsed : Gauge :=
  ⟨"sakuracloud_database_memory_used","Database's used memory size (unit: MB)",identLabels⟩
def systemDiskSize : Gauge :=
  ⟨"sakuracloud_database_disk_system_size","Database's system disk size (unit: MB)",identLabels⟩
def systemDiskUsed : Gauge :=
  ⟨"sakuracloud_database_disk_system_used","Database's used system disk size (unit: MB)",identLabels⟩
def backupDiskSize : Gauge :=
  ⟨"sakuracloud_database_disk_backup_size","Database's backup disk size (unit: MB)",identLabels⟩
def backupDiskUsed : Gauge :=
  ⟨"sakuracloud_database_disk_backup_used","Database's used backup disk size (unit: MB)",identLabels⟩
def binlogUsed : Gauge :=
  ⟨"sakuracloud_database_binlog_used","Database's used binlog size (unit: KB)",identLabels⟩
def replicationDelay : Gauge :=
  ⟨"sakuracloud_database_replication_delay","Replication delay time (unit: second)",identLabels⟩
def nicReceive : Gauge := ⟨"sakuracloud_database_nic_receive","NIC's receive bytes (unit: bps)",identLabels⟩
def nicSend : Gauge := ⟨"sakuracloud_database_nic_send","NIC's send bytes (unit: bps)",identLabels⟩
def diskRead : Gauge := ⟨"sakuracloud_database_disk_read","Disk's read bytes (unit: Bps)",identLabels⟩
def diskWrite : Gauge := ⟨"sakuracloud_database_disk_write","Disk's write bytes (unit: Bps)",identLabels⟩

def ident (item : Zoned Database) : List String :=
  [item.resource.common.id,item.resource.common.name,item.zone]

/-- What the record says. -/
def rows (item : Zoned Database) : Batch :=
  let d := item.resource
  let role := d.replicationRole
  [up.fill (boolValue d.common.isUp) (ident item),
    info.info (ident item ++ [d.common.plan.id,d.common.state.host.name,d.engine.name,d.engine.version,
      d.engine.revision,d.settings.conf.common.webUi,if role = "" then "0" else "1",role,
      flattenTags d.common.tags,d.common.description])]

/-- The settled samples of the monitors. -/
structure Readings where
  cpu : Option (MonitorSample CpuTime)
  nic : Option (MonitorSample Traffic)
  disk : Option (MonitorSample DiskActivity)
  usage : Option (MonitorSample DatabaseUsage)

def cpuRows (item : Zoned Database) (s : MonitorSample CpuTime) : Batch :=
  [(cpuTime.fill (s.value.cpuTime*1000) (ident item)).stamped s.time]

def trafficRows (item : Zoned Database) (s : MonitorSample Traffic) : Batch :=
  [(nicReceive.fill (s.value.receive*8) (ident item)).stamped s.time,
    (nicSend.fill (s.value.send*8) (ident item)).stamped s.time]

def activityRows (item : Zoned Database) (s : MonitorSample DiskActivity) : Batch :=
  [(diskRead.fill s.value.read (ident item)).stamped s.time,
    (diskWrite.fill s.value.write (ident item)).stamped s.time]

/-- Only a database that follows another one is behind. -/
def usageRows (item : Zoned Database) (s : MonitorSample DatabaseUsage) : Batch :=
  let v := s.value
  let row (g : Gauge) (x : Float) (full : (ident item).length = g.labels.length := by rfl) : Sample :=
    (g.fill x (ident item) full).stamped s.time
  [row memorySize v.totalMemory,row memoryUsed v.usedMemory,row systemDiskSize v.totalSystemDisk,
    row systemDiskUsed v.usedSystemDisk,row backupDiskSize v.totalBackupDisk,
    row backupDiskUsed v.usedBackupDisk,row binlogUsed v.usedBinlog]
    ++ if item.resource.replicationRole = "slave" then [row replicationDelay v.replicationDelay] else []

/-- What the monitors say. -/
def readingRows (item : Zoned Database) (r : Readings) : Batch :=
  rowsOf r.cpu (cpuRows item) ++ rowsOf r.nic (trafficRows item) ++ rowsOf r.disk (activityRows item)
    ++ rowsOf r.usage (usageRows item)

/-- Asks the monitors of a database that is up. -/
def readings (ctx : Context) (api : Api) (item : Zoned Database) : Run Readings := do
  let id := item.resource.common.id
  let cpu ← ctx.settled "cpu_time" id (.call api (.applianceCpu item.zone id ctx.window))
  let nic ← ctx.settled "nic" id (.call api (.applianceTraffic item.zone id 0 ctx.window))
  let disk ← ctx.settled "disk" id (.call api (.databaseDisk item.zone id ctx.window))
  let usage ← ctx.settled "database" id (.call api (.databaseUsage item.zone id ctx.window))
  return ⟨cpu,nic,disk,usage⟩

/-- The batch of one database. -/
def batch (ctx : Context) (api : Api) (item : Zoned Database) : Run Batch :=
  if item.resource.common.isUp then do return rows item ++ readingRows item (← readings ctx api item)
  else pure (rows item)

def collect (ctx : Context) (schedule : Schedule) (api : Api) : Run Unit :=
  ctx.collectEach schedule ctx.zones (fun z => .callZone api (.databases z)) (batch ctx api)

end CloudMetrics.Collect.Databases
