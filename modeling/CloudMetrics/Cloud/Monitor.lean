import CloudMetrics.Cloud.Storage
import CloudMetrics.Json.Printer

/-!
# Monitor values

A monitor answers with points: a timestamp and named numbers, some of them null while the period is
still being summed up. A point is complete when its timestamp can be read and every number that the
kind of value needs is there; other points are passed over.
-/
namespace CloudMetrics.Cloud

open Json Time

/-- A measured value and its instant. -/
structure MonitorSample (V : Type) where
  time : Instant
  value : V
deriving Repr, Inhabited

/-- The named numbers of one point. -/
abbrev Point := List (String × Option Float)

/-- A number of a point, unless it is missing or null. -/
def Point.number? (p : Point) (name : String) : Option Float := (p.lookup name).join

/-- A kind of value that monitors measure. -/
class MonitorValue (V : Type) where
  /-- The value of a complete point. -/
  ofPoint : Point → Option V
  /-- How a single value is read. -/
  shape : Shape V
  /-- The names and numbers of a value. -/
  members : V → List (String × Float)

structure CpuTime where
  cpuTime : Float
deriving Repr, Inhabited

instance : MonitorValue CpuTime where
  ofPoint p := do return ⟨← p.number? "CPU-TIME"⟩
  shape := .record (Fields.start CpuTime.mk |>.exact "cpu_time")
  members v := [("cpu_time",v.cpuTime)]

/-- Bytes per second over an interface. -/
structure Traffic where
  receive : Float
  send : Float
deriving Repr, Inhabited

instance : MonitorValue Traffic where
  ofPoint p := do return ⟨← p.number? "Receive",← p.number? "Send"⟩
  shape := .record (Fields.start Traffic.mk |>.exact "receive" |>.exact "send")
  members v := [("receive",v.receive),("send",v.send)]

/-- Bytes per second from and to a disk. -/
structure DiskActivity where
  read : Float
  write : Float
deriving Repr, Inhabited

instance : MonitorValue DiskActivity where
  ofPoint p := do return ⟨← p.number? "Read",← p.number? "Write"⟩
  shape := .record (Fields.start DiskActivity.mk |>.exact "read" |>.exact "write")
  members v := [("read",v.read),("write",v.write)]

/-- Bits per second through an internet connection. -/
structure RouterTraffic where
  inbound : Float
  outbound : Float
deriving Repr, Inhabited

instance : MonitorValue RouterTraffic where
  ofPoint p := do return ⟨← p.number? "In",← p.number? "Out"⟩
  shape := .record (Fields.start RouterTraffic.mk |>.exact "inbound" |>.exact "outbound")
  members v := [("inbound",v.inbound),("outbound",v.outbound)]

/-- What a database takes up: memory and disks in MiB, its change log in KiB. -/
structure DatabaseUsage where
  totalMemory : Float
  usedMemory : Float
  totalSystemDisk : Float
  usedSystemDisk : Float
  totalBackupDisk : Float
  usedBackupDisk : Float
  usedBinlog : Float
  replicationDelay : Float
deriving Repr, Inhabited

/-- The backup disk, the change log and the delay are zero where a plan does not measure them. -/
instance : MonitorValue DatabaseUsage where
  ofPoint p := do
    return ⟨← p.number? "Total-Memory-Size",← p.number? "Used-Memory-Size",← p.number? "Total-Disk1-Size",
      ← p.number? "Used-Disk1-Size",(p.number? "Total-Disk2-Size").getD 0,
      (p.number? "Used-Disk2-Size").getD 0,(p.number? "binlogUsedSizeKiB").getD 0,
      (p.number? "delayTimeSec").getD 0⟩
  shape := .record (Fields.start DatabaseUsage.mk |>.exact "total_memory_size"
    |>.exact "used_memory_size" |>.exact "total_disk1_size" |>.exact "used_disk1_size"
    |>.exact "total_disk2_size" |>.exact "used_disk2_size" |>.exact "binlog_used_size_kib"
    |>.exact "delay_time_sec")
  members v := [("total_memory_size",v.totalMemory),("used_memory_size",v.usedMemory),
    ("total_disk1_size",v.totalSystemDisk),("used_disk1_size",v.usedSystemDisk),
    ("total_disk2_size",v.totalBackupDisk),("used_disk2_size",v.usedBackupDisk),
    ("binlog_used_size_kib",v.usedBinlog),("delay_time_sec",v.replicationDelay)]

/-- Free space of a file server in KiB. -/
structure FreeDisk where
  freeDiskSize : Float
deriving Repr, Inhabited

instance : MonitorValue FreeDisk where
  ofPoint p := do return ⟨← p.number? "Free-Disk-Size"⟩
  shape := .record (Fields.start FreeDisk.mk |>.exact "free_disk_size")
  members v := [("free_disk_size",v.freeDiskSize)]

structure Connections where
  active : Float
  perSecond : Float
deriving Repr, Inhabited

instance : MonitorValue Connections where
  ofPoint p := do return ⟨← p.number? "ActiveConnections",← p.number? "ConnectionsPerSec"⟩
  shape := .record (Fields.start Connections.mk |>.exact "active_connections" |>.exact "connections_per_sec")
  members v := [("active_connections",v.active),("connections_per_sec",v.perSecond)]

/-- The points of a monitor response, by their timestamps. -/
abbrev MonitorPoints := List (String × Point)

def MonitorPoints.shape : Shape MonitorPoints :=
  .record (Fields.start id |>.nested "Data" [] (.entries (.entries (.optional .double))))

/-- The sample of a complete point. -/
def completePoint? (V : Type) [MonitorValue V] (p : String × Point) : Option (MonitorSample V) :=
  (Instant.ofStrict? p.1).bind fun time => (MonitorValue.ofPoint p.2).map fun value => ⟨time,value⟩

/-- The samples of the complete points. -/
def MonitorPoints.samples (V : Type) [MonitorValue V] (ps : MonitorPoints) : List (MonitorSample V) :=
  ps.filterMap (completePoint? V)

namespace MonitorSample

variable {V : Type} [MonitorValue V]

/-- How a sample on its own is read. -/
def shape : Shape (MonitorSample V) :=
  .record ((Fields.start MonitorSample.mk).next "time" none dateShape |>.next "value" none MonitorValue.shape)

/-- A sample as JSON, its instant with the offset `Z`. -/
def toJson (s : MonitorSample V) : Json :=
  .object [("time",.string s.time.writeZulu),
    ("value",.object ((MonitorValue.members s.value).map fun m => (m.1,.float m.2)))]

end MonitorSample

end CloudMetrics.Cloud
