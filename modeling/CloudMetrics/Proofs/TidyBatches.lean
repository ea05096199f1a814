import CloudMetrics.Proofs.DistinctSeries

/-!
# The batches of each kind are tidy

The rows of a record belong to gauges of their own, and where a record has a list of parts each row has
the place of its part for a label. So a batch has no series twice, whatever the record and the answers
about it say: parts may have ids, addresses and ports in common. Only the archives of a backup go by their
ids, and the coupons of an account by three of their fields.
-/
namespace CloudMetrics.Collect

open Cloud Metrics Time

/-- The labels of a listed resource. -/
def place (id zone : String) : List (String × String) := [("id",id),("zone",zone)]

namespace Servers

variable (item : Zoned Server)

theorem nicRow_fills (i : Nat) (nic : Interface) : (nicRow item nic i).Fills nicInfo := by
  unfold nicRow
  cases nic.switch <;> exact Sample.fills_info

theorem nicRow_bears (i : Nat) (nic : Interface) :
    (nicRow item nic i).Bears (("nic_index",toString i) :: place item.resource.id item.zone) := by
  unfold nicRow
  cases nic.switch <;> exact Sample.bears_of_map_eq rfl

theorem diskRow_bears (i : Nat) (disk : ServerDisk) :
    (diskRow item disk i).Bears (("index",toString i) :: place item.resource.id item.zone) :=
  Sample.bears_of_map_eq rfl

theorem nicRows_tidy : Tidy [nicInfo] (place item.resource.id item.zone)
    (item.resource.interfaces.mapIdx fun i nic => nicRow item nic i) :=
  Tidy.mapIdx (nicRow_fills item) (nicRow_bears item) _

theorem diskRows_tidy : Tidy [diskInfo] (place item.resource.id item.zone)
    (item.resource.disks.mapIdx fun i disk => diskRow item disk i) :=
  Tidy.mapIdx (fun _ _ => Sample.fills_info) (diskRow_bears item) _

theorem rows_tidy : Tidy [up,cpus,memories,info,nicInfo,diskInfo]
    (place item.resource.id item.zone) (rows item) := by
  refine ((?_ : Tidy [up,cpus,memories,info] _ _).append (nicRows_tidy item) (by decide)).append
    (diskRows_tidy item) (by decide)
  apply Tidy.cons Sample.fills_fill (Sample.bears_of_map_eq rfl) _ (by decide)
  apply Tidy.cons Sample.fills_fill (Sample.bears_of_map_eq rfl) _ (by decide)
  apply Tidy.cons Sample.fills_fill (Sample.bears_of_map_eq rfl) _ (by decide)
  exact Tidy.one Sample.fills_info (Sample.bears_of_map_eq rfl)

theorem cpuRows_tidy (m : MonitorSample CpuTime) :
    Tidy [cpuTime] (place item.resource.id item.zone) (cpuRows item m) :=
  .one (Sample.fills_fill.stamped _) (Sample.bears_of_map_eq rfl)

theorem trafficRows_tidy (i : Nat) (nic : Interface) (m : MonitorSample Traffic) :
    Tidy [nicReceive,nicSend] (("nic_index",toString i) :: place item.resource.id item.zone)
      (trafficRows item nic i m) := by
  apply Tidy.cons (Sample.fills_fill.stamped _) (Sample.bears_of_map_eq rfl) _ (by decide)
  exact Tidy.one (Sample.fills_fill.stamped _) (Sample.bears_of_map_eq rfl)

theorem activityRows_tidy (i : Nat) (disk : ServerDisk) (m : MonitorSample DiskActivity) :
    Tidy [diskRead,diskWrite] (("index",toString i) :: place item.resource.id item.zone)
      (activityRows item disk i m) := by
  apply Tidy.cons (Sample.fills_fill.stamped _) (Sample.bears_of_map_eq rfl) _ (by decide)
  exact Tidy.one (Sample.fills_fill.stamped _) (Sample.bears_of_map_eq rfl)

theorem nicReadings_tidy (r : Readings) : Tidy [nicReceive,nicSend] (place item.resource.id item.zone)
    ((item.resource.interfaces.zip r.nics).mapIdx fun i p => rowsOf p.2 (trafficRows item p.1 i)).flatten :=
  Tidy.flatten_mapIdx (fun i (p : Interface × Option (MonitorSample Traffic)) =>
    Tidy.rowsOf (trafficRows_tidy item i p.1) p.2) _

theorem diskReadings_tidy (r : Readings) : Tidy [diskRead,diskWrite] (place item.resource.id item.zone)
    ((item.resource.disks.zip r.disks).mapIdx fun i p => rowsOf p.2 (activityRows item p.1 i)).flatten :=
  Tidy.flatten_mapIdx (fun i (p : ServerDisk × Option (MonitorSample DiskActivity)) =>
    Tidy.rowsOf (activityRows_tidy item i p.1) p.2) _

theorem readingRows_tidy (r : Readings) : Tidy [cpuTime,nicReceive,nicSend,diskRead,diskWrite]
    (place item.resource.id item.zone) (readingRows item r) := by
  have hcpu := Tidy.rowsOf (cpuRows_tidy item) r.cpu
  exact (hcpu.append (nicReadings_tidy item r) (by decide)).append (diskReadings_tidy item r) (by decide)

theorem batch_tidy (ctx : Context) (api : Api) :
    Tidy gauges (place item.resource.id item.zone) (batch ctx api item).value := by
  unfold batch
  split
  · exact (rows_tidy item).append (readingRows_tidy item _) (by decide)
  · exact (rows_tidy item).of_subset (by decide)

end Servers

namespace Databases

variable (item : Zoned Database)

theorem rows_tidy : Tidy [up,info] (place item.resource.common.id item.zone) (rows item) := by
  apply Tidy.cons Sample.fills_fill (Sample.bears_of_map_eq rfl) _ (by decide)
  exact Tidy.one Sample.fills_info (Sample.bears_of_map_eq rfl)

theorem cpuRows_tidy (m : MonitorSample CpuTime) :
    Tidy [cpuTime] (place item.resource.common.id item.zone) (cpuRows item m) :=
  .one (Sample.fills_fill.stamped _) (Sample.bears_of_map_eq rfl)

theorem trafficRows_tidy (m : MonitorSample Traffic) :
    Tidy [nicReceive,nicSend] (place item.resource.common.id item.zone) (trafficRows item m) := by
  apply Tidy.cons (Sample.fills_fill.stamped _) (Sample.bears_of_map_eq rfl) _ (by decide)
  exact Tidy.one (Sample.fills_fill.stamped _) (Sample.bears_of_map_eq rfl)

theorem activityRows_tidy (m : MonitorSample DiskActivity) :
    Tidy [diskRead,diskWrite] (place item.resource.common.id item.zone) (activityRows item m) := by
  apply Tidy.cons (Sample.fills_fill.stamped _) (Sample.bears_of_map_eq rfl) _ (by decide)
  exact Tidy.one (Sample.fills_fill.stamped _) (Sample.bears_of_map_eq rfl)

theorem usageRows_tidy (m : MonitorSample DatabaseUsage) :
    Tidy [memorySize,memoryUsed,systemDiskSize,systemDiskUsed,backupDiskSize,backupDiskUsed,binlogUsed,
      replicationDelay] (place item.resource.common.id item.zone) (usageRows item m) := by
  have hdelay : Tidy [replicationDelay] (place item.resource.common.id item.zone)
      [(replicationDelay.fill m.value.replicationDelay (ident item)).stamped m.time] :=
    .one (Sample.fills_fill.stamped _) (Sample.bears_of_map_eq rfl)
  refine (?_ : Tidy [memorySize,memoryUsed,systemDiskSize,systemDiskUsed,backupDiskSize,backupDiskUsed,
    binlogUsed] _ _).append hdelay.ite (by decide)
  apply Tidy.cons (Sample.fills_fill.stamped _) (Sample.bears_of_map_eq rfl) _ (by decide)
  apply Tidy.cons (Sample.fills_fill.stamped _) (Sample.bears_of_map_eq rfl) _ (by decide)
  apply Tidy.cons (Sample.fills_fill.stamped _) (Sample.bears_of_map_eq rfl) _ (by decide)
  apply Tidy.cons (Sample.fills_fill.stamped _) (Sample.bears_of_map_eq rfl) _ (by decide)
  apply Tidy.cons (Sample.fills_fill.stamped _) (Sample.bears_of_map_eq rfl) _ (by decide)
  apply Tidy.cons (Sample.fills_fill.stamped _) (Sample.bears_of_map_eq rfl) _ (by decide)
  exact Tidy.one (Sample.fills_fill.stamped _) (Sample.bears_of_map_eq rfl)

theorem readingRows_tidy (r : Readings) : Tidy [cpuTime,nicReceive,nicSend,diskRead,diskWrite,memorySize,
    memoryUsed,systemDiskSize,systemDiskUsed,backupDiskSize,backupDiskUsed,binlogUsed,replicationDelay]
    (place item.resource.common.id item.zone) (readingRows item r) := by
  have hcpu := Tidy.rowsOf (cpuRows_tidy item) r.cpu
  have hnic := Tidy.rowsOf (trafficRows_tidy item) r.nic
  have hdisk := Tidy.rowsOf (activityRows_tidy item) r.disk
  have husage := Tidy.rowsOf (usageRows_tidy item) r.usage
  exact ((hcpu.append hnic (by decide)).append hdisk (by decide)).append husage (by decide)

theorem batch_tidy (ctx : Context) (api : Api) :
    Tidy gauges (place item.resource.common.id item.zone) (batch ctx api item).value := by
  unfold batch
  split
  · exact ((rows_tidy item).append (readingRows_tidy item _) (by decide)).of_subset (by decide)
  · exact (rows_tidy item).of_subset (by decide)

end Databases

namespace FileServers

variable (item : Zoned Nfs)

theorem rows_tidy : Tidy [up,info] (place item.resource.common.id item.zone) (rows item) := by
  apply Tidy.cons Sample.fills_fill (Sample.bears_of_map_eq rfl) _ (by decide)
  exact Tidy.one Sample.fills_info (Sample.bears_of_map_eq rfl)

theorem freeRows_tidy (m : MonitorSample FreeDisk) :
    Tidy [freeDiskSize] (place item.resource.common.id item.zone) (freeRows item m) :=
  .one (Sample.fills_fill.stamped _) (Sample.bears_of_map_eq rfl)

theorem trafficRows_tidy (m : MonitorSample Traffic) :
    Tidy [nicReceive,nicSend] (place item.resource.common.id item.zone) (trafficRows item m) := by
  apply Tidy.cons (Sample.fills_fill.stamped _) (Sample.bears_of_map_eq rfl) _ (by decide)
  exact Tidy.one (Sample.fills_fill.stamped _) (Sample.bears_of_map_eq rfl)

theorem readingRows_tidy (r : Readings) : Tidy [freeDiskSize,nicReceive,nicSend]
    (place item.resource.common.id item.zone) (readingRows item r) := by
  have hfree := Tidy.rowsOf (freeRows_tidy item) r.free
  have hnic := Tidy.rowsOf (trafficRows_tidy item) r.nic
  exact hfree.append hnic (by decide)

theorem batch_tidy (ctx : Context) (api : Api) :
    Tidy gauges (place item.resource.common.id item.zone) (batch ctx api item).value := by
  unfold batch
  split
  · exact (rows_tidy item).append (readingRows_tidy item _) (by decide)
  · exact (rows_tidy item).of_subset (by decide)

end FileServers

namespace LoadBalancers

variable (item : Zoned LoadBalancer)

/-- The labels of a virtual address of a load balancer. -/
def vipPlace (index : Nat) : List (String × String) :=
  ("vip_index",toString index) :: place item.resource.common.id item.zone

def serverRow (vip : LoadBalancerVip) (i : Nat) (s : LoadBalancerServer) (j : Nat) : Sample :=
  serverInfo.info (serverIdent item vip i s j ++
    [s.port,s.healthCheck.protocol,s.healthCheck.path,s.healthCheck.status])

theorem serverRows_tidy (vip : LoadBalancerVip) (i : Nat) :
    Tidy [serverInfo] (vipPlace item i) (vip.servers.mapIdx fun j s => serverRow item vip i s j) := by
  have hbears : ∀ j s, (serverRow item vip i s j).Bears (("server_index",toString j) :: vipPlace item i) :=
    fun _ _ => Sample.bears_of_map_eq rfl
  exact Tidy.mapIdx (fun _ _ => Sample.fills_info) hbears vip.servers

theorem vipRows_tidy (i : Nat) (vip : LoadBalancerVip) :
    Tidy [vipInfo,serverInfo] (vipPlace item i) (vipRows item vip i) :=
  Tidy.cons Sample.fills_info (Sample.bears_of_map_eq rfl) (serverRows_tidy item vip i) (by decide)

theorem rows_tidy : Tidy [up,info,vipInfo,serverInfo]
    (place item.resource.common.id item.zone) (rows item) := by
  have hvips := Tidy.flatten_mapIdx (vipRows_tidy item) item.resource.settings.vips
  refine (?_ : Tidy [up,info] _ _).append hvips (by decide)
  apply Tidy.cons Sample.fills_fill (Sample.bears_of_map_eq rfl) _ (by decide)
  exact Tidy.one Sample.fills_info (Sample.bears_of_map_eq rfl)

theorem serverStatusRows_tidy (vip : LoadBalancerVip) (i j : Nat) (server : LoadBalancerServer)
    (u : LoadBalancerServerStatus) : Tidy [serverUp,serverConnection,serverCps]
      (("server_index",toString j) :: vipPlace item i)
      (serverStatusRows (serverIdent item vip i server j) rfl u) := by
  apply Tidy.cons Sample.fills_fill (Sample.bears_of_map_eq rfl) _ (by decide)
  apply Tidy.cons Sample.fills_fill (Sample.bears_of_map_eq rfl) _ (by decide)
  exact Tidy.one Sample.fills_fill (Sample.bears_of_map_eq rfl)

theorem vipStatusRows_tidy (i : Nat) (vip : LoadBalancerVip) (v : LoadBalancerVipStatus) :
    Tidy [vipCps,serverUp,serverConnection,serverCps] (vipPlace item i) (vipStatusRows item vip i v) := by
  apply Tidy.cons Sample.fills_fill (Sample.bears_of_map_eq rfl) _ (by decide)
  apply Tidy.flatten_mapIdx
  intro j server
  exact Tidy.rowsOf (serverStatusRows_tidy item vip i j server) (findServer v.servers server)

theorem statusRows_tidy (status : List LoadBalancerVipStatus) :
    Tidy [vipCps,serverUp,serverConnection,serverCps] (place item.resource.common.id item.zone)
      (statusRows item status) := by
  apply Tidy.flatten_mapIdx
  intro i vip
  exact Tidy.rowsOf (vipStatusRows_tidy item i vip) (findVip status vip)

theorem trafficRows_tidy (m : MonitorSample Traffic) :
    Tidy [receive,send] (place item.resource.common.id item.zone) (trafficRows item m) := by
  apply Tidy.cons (Sample.fills_fill.stamped _) (Sample.bears_of_map_eq rfl) _ (by decide)
  exact Tidy.one (Sample.fills_fill.stamped _) (Sample.bears_of_map_eq rfl)

theorem batch_tidy (ctx : Context) (api : Api) :
    Tidy gauges (place item.resource.common.id item.zone) (batch ctx api item).value := by
  have hstatus := Tidy.rowsOf (statusRows_tidy item) (readings ctx api item).value.status
  have htraffic := Tidy.rowsOf (trafficRows_tidy item) (readings ctx api item).value.traffic
  exact (rows_tidy item).append (hstatus.append htraffic (by decide)) (by decide)

end LoadBalancers

namespace VpcRouters

variable (item : Zoned VpcRouter)

theorem rows_tidy : Tidy [up,info] (place item.resource.common.id item.zone) (rows item) := by
  apply Tidy.cons Sample.fills_fill (Sample.bears_of_map_eq rfl) _ (by decide)
  exact Tidy.one Sample.fills_info (Sample.bears_of_map_eq rfl)

/-- The numbers of a status. -/
def countRows (s : VpcRouterStatus) : Batch :=
  [sessionCount.sample s.sessionCount (ident item),
    dhcpLeaseCount.sample (Float.ofNat s.dhcpLeases.length) (ident item)]
    ++ (if isOn item.resource.settings.router.l2tpServer then
      [l2tpSessionCount.sample (Float.ofNat s.l2tpSessions.length) (ident item)] else [])
    ++ (if isOn item.resource.settings.router.pptpServer then
      [pptpSessionCount.sample (Float.ofNat s.pptpSessions.length) (ident item)] else [])

/-- The far ends of a status. -/
def peerRows (s : VpcRouterStatus) : Batch :=
  (peers item.resource).mapIdx fun i peer =>
    peerStatus.sample (boolValue (peerIsUp s.peers peer)) (ident item ++ [toString i,peer.peer])

theorem statusRows_eq (s : VpcRouterStatus) : statusRows item s = countRows item s ++ peerRows item s := rfl

theorem countRows_tidy (s : VpcRouterStatus) : Tidy [sessionCount,dhcpLeaseCount,l2tpSessionCount,pptpSessionCount]
    (place item.resource.common.id item.zone) (countRows item s) := by
  have hl2tp : Tidy [l2tpSessionCount] (place item.resource.common.id item.zone)
      [l2tpSessionCount.sample (Float.ofNat s.l2tpSessions.length) (ident item)] :=
    .one Sample.fills_sample (Sample.bears_of_map_eq rfl)
  have hpptp : Tidy [pptpSessionCount] (place item.resource.common.id item.zone)
      [pptpSessionCount.sample (Float.ofNat s.pptpSessions.length) (ident item)] :=
    .one Sample.fills_sample (Sample.bears_of_map_eq rfl)
  refine ((?_ : Tidy [sessionCount,dhcpLeaseCount] _ _).append hl2tp.ite (by decide)).append
    hpptp.ite (by decide)
  apply Tidy.cons Sample.fills_sample (Sample.bears_of_map_eq rfl) _ (by decide)
  exact Tidy.one Sample.fills_sample (Sample.bears_of_map_eq rfl)

theorem peerRows_tidy (s : VpcRouterStatus) :
    Tidy [peerStatus] (place item.resource.common.id item.zone) (peerRows item s) := by
  have hbears : ∀ (i : Nat) (p : PeerSetting), (peerStatus.sample (boolValue (peerIsUp s.peers p))
      (ident item ++ [toString i,p.peer])).Bears
        (("peer_index",toString i) :: place item.resource.common.id item.zone) :=
    fun _ _ => Sample.bears_of_map_eq rfl
  exact Tidy.mapIdx (fun _ _ => Sample.fills_sample) hbears (peers item.resource)

theorem statusRows_tidy (status : VpcRouterStatus) :
    Tidy [sessionCount,dhcpLeaseCount,l2tpSessionCount,pptpSessionCount,peerStatus]
      (place item.resource.common.id item.zone) (statusRows item status) :=
  (countRows_tidy item status).append (peerRows_tidy item status) (by decide)

theorem cpuRows_tidy (m : MonitorSample CpuTime) :
    Tidy [cpuTime] (place item.resource.common.id item.zone) (cpuRows item m) :=
  .one (Sample.fills_fill.stamped _) (Sample.bears_of_map_eq rfl)

theorem trafficRows_tidy (i : Nat) (m : MonitorSample Traffic) :
    Tidy [receive,send] (("nic_index",toString i) :: place item.resource.common.id item.zone)
      (trafficRows item i m) := by
  apply Tidy.cons (Sample.fills_fill.stamped _) (Sample.bears_of_map_eq rfl) _ (by decide)
  exact Tidy.one (Sample.fills_fill.stamped _) (Sample.bears_of_map_eq rfl)

theorem pairwise_switchedPlaces (a : Appliance) : (switchedPlaces a).Pairwise (· < ·) :=
  List.pairwise_lt_range.filter _

/-- Each place that is asked for, with the settled sample of its answer. -/
theorem readings_nics (ctx : Context) (api : Api) : (readings ctx api item).value.nics =
    if item.resource.common.isUp then (switchedPlaces item.resource.common).map fun i => (i,
      (api (.applianceTraffic item.zone item.resource.common.id i ctx.window)).toOption.bind latestSettled)
    else [] := by
  rw [← attached_eq_switchedPlaces]
  unfold readings
  dsimp only
  split
  · simp only [Run.bind_value,Run.pure_value,Run.sequence_value,List.map_map]
    apply List.map_congr_left
    intro i hi
    have ha := Run.toOption_call_value api (.applianceTraffic item.zone item.resource.common.id i ctx.window)
    simp only [Function.comp_apply,Run.bind_value,Run.pure_value,Context.settled_value]
    exact congrArg (fun o : Option (List (MonitorSample Traffic)) => (i,o.bind latestSettled)) ha
  · rfl

theorem readings_places (ctx : Context) (api : Api) :
    ((readings ctx api item).value.nics.map (·.1)).Pairwise (· < ·) := by
  rw [readings_nics]
  split
  · rw [List.map_map]
    change ((switchedPlaces item.resource.common).map id).Pairwise (· < ·)
    rw [List.map_id]
    exact pairwise_switchedPlaces _
  · exact List.Pairwise.nil

theorem readingRows_tidy {r : Readings} (hr : (r.nics.map (·.1)).Nodup) :
    Tidy [sessionCount,dhcpLeaseCount,l2tpSessionCount,pptpSessionCount,peerStatus,cpuTime,receive,send]
      (place item.resource.common.id item.zone) (readingRows item r) := by
  have hstatus := Tidy.rowsOf (statusRows_tidy item) r.status
  have hcpu := Tidy.rowsOf (cpuRows_tidy item) r.cpu
  have hd : (r.nics.map fun p => [toString p.1]).Nodup := by
    have h := hr.map singleton_toString_injective
    rwa [List.map_map] at h
  have hnics : Tidy [receive,send] (place item.resource.common.id item.zone)
      (r.nics.flatMap fun p => rowsOf p.2 (trafficRows item p.1)) :=
    Tidy.flatMap ["nic_index"] hd (fun _ _ => rfl) fun p _ => Tidy.rowsOf (trafficRows_tidy item p.1) p.2
  exact (hstatus.append hcpu (by decide)).append hnics (by decide)

theorem batch_tidy (ctx : Context) (api : Api) :
    Tidy gauges (place item.resource.common.id item.zone) (batch ctx api item).value :=
  (rows_tidy item).append (readingRows_tidy item ((readings_places item ctx api).imp Nat.ne_of_lt)) (by decide)

end VpcRouters

namespace Internets

variable (item : Zoned Internet)

theorem trafficRows_tidy (m : MonitorSample RouterTraffic) :
    Tidy [inbound,outbound] (place item.resource.id item.zone) (trafficRows item m) := by
  apply Tidy.cons (Sample.fills_fill.stamped _) (Sample.bears_of_map_eq rfl) _ (by decide)
  exact Tidy.one (Sample.fills_fill.stamped _) (Sample.bears_of_map_eq rfl)

theorem batch_tidy (ctx : Context) (api : Api) :
    Tidy gauges (place item.resource.id item.zone) (batch ctx api item).value := by
  have hrows : Tidy [info] (place item.resource.id item.zone) (rows item) :=
    .one Sample.fills_info (Sample.bears_of_map_eq rfl)
  exact hrows.append (Tidy.rowsOf (trafficRows_tidy item) _) (by decide)

end Internets

namespace AutoBackups

variable (item : Zoned AutoBackup)

theorem archiveRows_tidy {archives : List Archive} (hd : (archives.map fun a => [a.id]).Nodup) :
    Tidy [count,lastTime,archiveInfo] (place item.resource.id item.zone) (archiveRows item archives) := by
  have hlast : ∀ t : Instant, Tidy [lastTime] (place item.resource.id item.zone)
      [lastTime.fill (Float.ofInt t.millis) (ident item)] :=
    fun _ => .one Sample.fills_fill (Sample.bears_of_map_eq rfl)
  have harchives : Tidy [archiveInfo] (place item.resource.id item.zone)
      (archives.flatMap fun a => [archiveInfo.info (ident item ++
        [a.id,a.name,flattenTags a.tags,a.description])]) :=
    Tidy.flatMap ["archive_id"] hd (fun _ _ => rfl) fun _ _ =>
      .one Sample.fills_info (Sample.bears_of_map_eq rfl)
  rw [← List.map_eq_flatMap] at harchives
  have hrest := (Tidy.rowsOf hlast (latest? (archives.filterMap (·.createdAt)))).append harchives (by decide)
  exact Tidy.cons Sample.fills_fill (Sample.bears_of_map_eq rfl) hrest (by decide)

theorem batch_tidy (ctx : Context) (api : Api) (hd : ∀ archives,
    api (.archives item.zone item.resource.id) = .ok archives → (archives.map fun a => [a.id]).Nodup) :
    Tidy gauges (place item.resource.id item.zone) (batch ctx api item).value := by
  have hrows : Tidy [info] (place item.resource.id item.zone) (rows item) :=
    .one Sample.fills_info (Sample.bears_of_map_eq rfl)
  have hread : Tidy [count,lastTime,archiveInfo] (place item.resource.id item.zone)
      (rowsOf (ctx.fetch "archives" item.resource.id
        (.call api (.archives item.zone item.resource.id))).value (archiveRows item)) := by
    rw [Context.fetch_value,Run.call_value]
    cases h : api (.archives item.zone item.resource.id) with
    | error e => exact Tidy.nil
    | ok archives => exact archiveRows_tidy item (hd archives h)
  exact hrows.append hread (by decide)

end AutoBackups

namespace ProxyLbs

variable (item : Zoned ProxyLb)

def serverRow (s : ProxyLbServer) (i : Nat) : Sample :=
  serverInfo.info (serverIdent item s i ++ [s.enabled])

theorem serverRows_tidy : Tidy [serverInfo] [("id",item.resource.id)]
    (item.resource.settings.spec.servers.mapIdx fun i s => serverRow item s i) := by
  have hbears : ∀ i s, (serverRow item s i).Bears [("server_index",toString i),("id",item.resource.id)] :=
    fun _ _ => Sample.bears_of_map_eq rfl
  exact Tidy.mapIdx (fun _ _ => Sample.fills_info) hbears _

theorem bindPortRows_tidy : Tidy [bindPortInfo] [("id",item.resource.id)]
    (item.resource.settings.spec.bindPorts.mapIdx fun i b =>
      bindPortInfo.info (ident item ++ [toString i,b.proxyMode,b.port])) := by
  have hbears : ∀ (i : Nat) (b : BindPort),
      (bindPortInfo.info (ident item ++ [toString i,b.proxyMode,b.port])).Bears
        [("bind_port_index",toString i),("id",item.resource.id)] :=
    fun _ _ => Sample.bears_of_map_eq rfl
  exact Tidy.mapIdx (fun _ _ => Sample.fills_info) hbears _

theorem rows_tidy : Tidy [up,info,bindPortInfo,serverInfo] [("id",item.resource.id)] (rows item) := by
  refine ((?_ : Tidy [up,info] _ _).append (bindPortRows_tidy item) (by decide)).append
    (serverRows_tidy item) (by decide)
  apply Tidy.cons Sample.fills_fill (Sample.bears_of_map_eq rfl) _ (by decide)
  exact Tidy.one Sample.fills_info (Sample.bears_of_map_eq rfl)

theorem healthRows_tidy (h : ProxyLbHealth) :
    Tidy [serverUp] [("id",item.resource.id)] (healthRows item h) := by
  have hserver : ∀ (i : Nat) (s : ProxyLbServer), (serverUp.fill
      (boolValue ((findServer h.servers s).any ProxyLbServerHealth.isUp)) (serverIdent item s i)).Bears
        [("server_index",toString i),("id",item.resource.id)] :=
    fun _ _ => Sample.bears_of_map_eq rfl
  exact Tidy.mapIdx (fun _ _ => Sample.fills_fill) hserver _

theorem connectionRows_tidy (m : MonitorSample Connections) :
    Tidy [activeConnections,connectionPerSec] [("id",item.resource.id)] (connectionRows item m) := by
  apply Tidy.cons (Sample.fills_fill.stamped _) (Sample.bears_of_map_eq rfl) _ (by decide)
  exact Tidy.one (Sample.fills_fill.stamped _) (Sample.bears_of_map_eq rfl)

theorem batch_tidy (ctx : Context) (api : Api) :
    Tidy gauges [("id",item.resource.id)] (batch ctx api item).value := by
  have hhealth := Tidy.rowsOf (healthRows_tidy item) (readings ctx api item).value.health
  have hconnections := Tidy.rowsOf (connectionRows_tidy item) (readings ctx api item).value.connections
  exact (rows_tidy item).append (hhealth.append hconnections (by decide)) (by decide)

end ProxyLbs

theorem Bills.batch_tidy (bills : List Bill) : Tidy gauges [] (batch bills) := by
  unfold batch
  cases latest? bills with
  | none => exact Tidy.nil
  | some b =>
    have hrow : (row b).Fills amount := by
      unfold row
      exact Sample.fills_fill
    exact Tidy.one hrow (Sample.bears_of_map_eq rfl)

namespace Coupons

/-- What tells a coupon from others. -/
def key (c : Coupon) : List String := [c.id,c.memberId,c.contractId]

theorem rows_tidy (c : Coupon) (ends now : Instant) :
    Tidy gauges (labels.zip (key c)) (rows c ends now) := by
  apply Tidy.cons Sample.fills_fill (Sample.bears_of_map_eq rfl) _ (by decide)
  apply Tidy.cons Sample.fills_fill (Sample.bears_of_map_eq rfl) _ (by decide)
  exact Tidy.one Sample.fills_fill (Sample.bears_of_map_eq rfl)

theorem batch_tidy {coupons : List Coupon} (hd : (coupons.map key).Nodup) (now : Instant) :
    Tidy gauges [] (batch coupons now) := by
  refine Tidy.flatMap labels hd (fun _ _ => rfl) fun c _ => ?_
  rw [List.append_nil]
  exact Tidy.rowsOf (fun ends => (rows_tidy c ends now).ite) c.untilAt

end Coupons

end CloudMetrics.Collect
