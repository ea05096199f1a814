import CloudMetrics.Collect.Context

/-!
# Automatic backups

The schedule of each disk, and the archives that it has left so far.
-/
namespace CloudMetrics.Collect.AutoBackups

open Cloud Metrics Time

def identLabels : List String := ["id","name","zone"]

def info : Gauge :=
  ⟨"sakuracloud_auto_backup_info","A metric with a constant '1' value labeled by auto-backup information",
    identLabels ++ ["disk_id","max_backup_num","weekdays","tags","description"]⟩
def count : Gauge :=
  ⟨"sakuracloud_auto_backup_count","A count of archives created by auto-backup",identLabels⟩
def lastTime : Gauge :=
  ⟨"sakuracloud_auto_backup_last_time","Creation time of the newest archive (unix time in milliseconds)",
    identLabels⟩
def archiveInfo : Gauge :=
  ⟨"sakuracloud_auto_backup_archive_info",
    "A metric with a constant '1' value labeled by backuped archive information",
    identLabels ++ ["archive_id","archive_name","archive_tags","archive_description"]⟩

def ident (item : Zoned AutoBackup) : List String := [item.resource.id,item.resource.name,item.zone]

/-- What the record says. -/
def rows (item : Zoned AutoBackup) : Batch :=
  let b := item.resource
  [info.info (ident item ++ [b.status.diskId,b.settings.spec.maximumArchives,
    String.intercalate "," b.settings.spec.weekdays,flattenTags b.tags,b.description])]

/-- The latest of some instants. -/
def latest? (ts : List Instant) : Option Instant :=
  ts.foldl (fun acc t => match acc with
    | none => some t
    | some u => if t < u then some u else some t) none

/-- What the archives say. -/
def archiveRows (item : Zoned AutoBackup) (archives : List Archive) : Batch :=
  count.fill (Float.ofNat archives.length) (ident item)
    :: rowsOf (latest? (archives.filterMap (·.createdAt)))
        (fun t => [lastTime.fill (Float.ofInt t.millis) (ident item)])
    ++ archives.map fun a =>
      archiveInfo.info (ident item ++ [a.id,a.name,flattenTags a.tags,a.description])

/-- The batch of one schedule. -/
def batch (ctx : Context) (api : Api) (item : Zoned AutoBackup) : Run Batch := do
  let id := item.resource.id
  let archives ← ctx.fetch "archives" id (.call api (.archives item.zone id))
  return rows item ++ rowsOf archives (archiveRows item)

def collect (ctx : Context) (schedule : Schedule) (api : Api) : Run Unit :=
  ctx.collectEach schedule ctx.zones (fun z => .callZone api (.autoBackups z)) (batch ctx api)

end CloudMetrics.Collect.AutoBackups
