import CloudMetrics.Proofs.Plans

/-!
# A failed call takes only its own series

Two clouds that answer all calls alike but one lead to the same batches, once the series that this call
feeds are left out of both. Each kind says which gauges a call feeds, and with which labels.
-/
namespace CloudMetrics.Collect

open Cloud Metrics Time

/-- The sample belongs to one of some gauges and carries the given labels. -/
def isOf (gauges : List Gauge) (labels : List (String × String)) (s : Sample) : Bool :=
  gauges.any (fun g => g.name == s.name) && labels.all fun l => s.label? l.1 == some l.2

/-- The samples of a batch that a call does not feed. -/
def without (feeds : Call → Sample → Bool) (q : Call) (b : Batch) : Batch :=
  b.filter fun s => !feeds q s

/-- Two clouds that answer every other call alike. -/
def AgreeExcept (q : Call) (api api' : Api) : Prop := ∀ c, c ≠ q → api c = api' c

section
variable {feeds : Call → Sample → Bool} {q c : Call} {V : Type} {ctx : Context} {api api' : Api}

theorem without_append {a a' b b' : Batch} (ha : without feeds q a = without feeds q a')
    (hb : without feeds q b = without feeds q b') :
    without feeds q (a++b) = without feeds q (a'++b') := by
  simp only [without,List.filter_append] at ha hb ⊢
  rw [ha,hb]

/-- Rows that a call feeds are the same in both batches, or left out of both. -/
theorem without_rowsOf {a a' : Option V} {rows : V → Batch} (heq : c ≠ q → a = a')
    (hfed : ∀ v, ∀ s ∈ rows v, feeds c s = true) :
    without feeds q (rowsOf a rows) = without feeds q (rowsOf a' rows) := by
  by_cases hc : c = q
  · subst hc
    have hn : ∀ o : Option V, without feeds c (rowsOf o rows) = [] := by
      intro o
      rw [without,List.filter_eq_nil_iff]
      intro s hs
      cases o with
      | none => exact absurd hs List.not_mem_nil
      | some v => simp [hfed v s hs]
    rw [hn,hn]
  · rw [heq hc]

theorem without_flatten_mapIdx {β : Type} {f g : Nat → β → Batch} (xs : List β)
    (h : ∀ i x, without feeds q (f i x) = without feeds q (g i x)) :
    without feeds q (xs.mapIdx f).flatten = without feeds q (xs.mapIdx g).flatten := by
  simp only [without,List.mapIdx_eq_zipIdx_map,List.filter_flatten,List.map_map] at h ⊢
  simp only [Function.comp_def,h]

theorem without_flatMap {β : Type} {f g : β → Batch} (xs : List β)
    (h : ∀ x, without feeds q (f x) = without feeds q (g x)) :
    without feeds q (xs.flatMap f) = without feeds q (xs.flatMap g) := by
  simp only [without,List.filter_flatMap] at h ⊢
  simp only [h]

theorem call_value_of_agree (h : AgreeExcept q api api') (hc : c ≠ q) :
    (Run.call api c).value = (Run.call api' c).value := by
  rw [Run.call_value,Run.call_value,h c hc]

/-- The rows of a query that only one call bears on. -/
theorem without_fetched {stage subject : String} {query query' : Run (Except Failure V)}
    {rows : V → Batch} (heq : c ≠ q → query.value = query'.value)
    (hfed : ∀ v, ∀ s ∈ rows v, feeds c s = true) :
    without feeds q (rowsOf (ctx.fetch stage subject query).value rows) =
      without feeds q (rowsOf (ctx.fetch stage subject query').value rows) := by
  refine without_rowsOf (fun hc => ?_) hfed
  rw [Context.fetch_value,Context.fetch_value,heq hc]

/-- The rows of a monitor that only one call bears on. -/
theorem without_settled {stage subject : String}
    {query query' : Run (Except Failure (List (MonitorSample V)))} {rows : MonitorSample V → Batch}
    (heq : c ≠ q → query.value = query'.value) (hfed : ∀ v, ∀ s ∈ rows v, feeds c s = true) :
    without feeds q (rowsOf (ctx.settled stage subject query).value rows) =
      without feeds q (rowsOf (ctx.settled stage subject query').value rows) := by
  refine without_rowsOf (fun hc => ?_) hfed
  rw [Context.settled_value,Context.settled_value,heq hc]

end

theorem mem_rowsOf {V : Type} {a : Option V} {rows : V → Batch} {s : Sample} :
    s ∈ rowsOf a rows ↔ ∃ v, a = some v ∧ s ∈ rows v := by
  cases a <;> simp [rowsOf]

/-- Things beside what was read for them, with their places. -/
theorem mapIdx_zip_map {α β γ : Type} (xs : List α) (f : α → β) (g : Nat → α × β → γ) :
    (xs.zip (xs.map f)).mapIdx g = xs.mapIdx fun i x => g i (x,f x) :=
  List.ext_getElem (by simp) (by simp)

@[simp] theorem isOf_stamped (gauges : List Gauge) (labels : List (String × String)) (s : Sample)
    (t : Instant) : isOf gauges labels (s.stamped t) = isOf gauges labels s := rfl

@[simp] theorem isOf_sample (gauges : List Gauge) (labels : List (String × String)) (g : Gauge)
    (v : Float) (values : List String) : isOf gauges labels (g.sample v values) =
      (gauges.any (fun h => h.name == g.name)
        && labels.all fun l => (g.labels.zip values).lookup l.1 == some l.2) := rfl

namespace Servers

variable (ctx : Context) (item : Zoned Server)

/-- A server's processor, an interface or a disk. -/
def feeds : Call → Sample → Bool
  | .serverCpu zone id _ => isOf [cpuTime] [("zone",zone),("id",id)]
  | .interfaceTraffic zone id _ => isOf [nicReceive,nicSend] [("zone",zone),("interface_id",id)]
  | .diskActivity zone id _ => isOf [diskRead,diskWrite] [("zone",zone),("disk_id",id)]
  | _ => fun _ => false

theorem cpuRows_fed (w : Window) (m : MonitorSample CpuTime) :
    ∀ s ∈ cpuRows item m, feeds (.serverCpu item.zone item.resource.id w) s = true := by
  simp [cpuRows,feeds,cpuTime,identLabels,ident,List.lookup_cons]

theorem trafficRows_fed (nic : Interface) (i : Nat) (w : Window) (m : MonitorSample Traffic) :
    ∀ s ∈ trafficRows item nic i m, feeds (.interfaceTraffic item.zone nic.id w) s = true := by
  simp [trafficRows,feeds,nicReceive,nicSend,nicLabels,identLabels,ident,List.lookup_cons]

theorem activityRows_fed (disk : ServerDisk) (i : Nat) (w : Window) (m : MonitorSample DiskActivity) :
    ∀ s ∈ activityRows item disk i m, feeds (.diskActivity item.zone disk.id w) s = true := by
  simp [activityRows,feeds,diskRead,diskWrite,diskLabels,identLabels,ident,List.lookup_cons]

theorem readings_value (api : Api) : (readings ctx api item).value =
    ⟨(ctx.settled "cpu_time" item.resource.id
        (.call api (.serverCpu item.zone item.resource.id ctx.window))).value,
      item.resource.interfaces.map fun nic =>
        (ctx.settled "nic" nic.id (.call api (.interfaceTraffic item.zone nic.id ctx.window))).value,
      item.resource.disks.map fun disk =>
        (ctx.settled "disk" disk.id (.call api (.diskActivity item.zone disk.id ctx.window))).value⟩ := by
  simp only [readings,Run.bind_value,Run.pure_value,Run.sequence_value,List.map_map]
  rfl

theorem batch_without {q : Call} {api api' : Api} (h : AgreeExcept q api api') :
    without feeds q (batch ctx api item).value = without feeds q (batch ctx api' item).value := by
  unfold batch
  split
  · rw [Run.bind_value,Run.bind_value,Run.pure_value,Run.pure_value,readings_value,readings_value]
    simp only [readingRows,mapIdx_zip_map]
    refine without_append rfl (without_append (without_append ?_ ?_) ?_)
    · exact without_settled (call_value_of_agree h) (cpuRows_fed item _)
    · refine without_flatten_mapIdx _ fun i nic => ?_
      exact without_settled (call_value_of_agree h)
        (trafficRows_fed item nic i _)
    · refine without_flatten_mapIdx _ fun i disk => ?_
      exact without_settled (call_value_of_agree h)
        (activityRows_fed item disk i _)
  · rfl

end Servers

namespace Databases

variable (ctx : Context) (item : Zoned Database)

/-- A database's processor, its only interface, its only disk, or its usage. -/
def feeds : Call → Sample → Bool
  | .applianceCpu zone id _ => isOf [cpuTime] [("zone",zone),("id",id)]
  | .applianceTraffic zone id 0 _ => isOf [nicReceive,nicSend] [("zone",zone),("id",id)]
  | .databaseDisk zone id _ => isOf [diskRead,diskWrite] [("zone",zone),("id",id)]
  | .databaseUsage zone id _ =>
    isOf [memorySize,memoryUsed,systemDiskSize,systemDiskUsed,backupDiskSize,backupDiskUsed,
      binlogUsed,replicationDelay] [("zone",zone),("id",id)]
  | _ => fun _ => false

theorem cpuRows_fed (w : Window) (m : MonitorSample CpuTime) :
    ∀ s ∈ cpuRows item m, feeds (.applianceCpu item.zone item.resource.common.id w) s = true := by
  simp [cpuRows,feeds,cpuTime,identLabels,ident,List.lookup_cons]

theorem trafficRows_fed (w : Window) (m : MonitorSample Traffic) :
    ∀ s ∈ trafficRows item m,
      feeds (.applianceTraffic item.zone item.resource.common.id 0 w) s = true := by
  simp [trafficRows,feeds,nicReceive,nicSend,identLabels,ident,List.lookup_cons]

theorem activityRows_fed (w : Window) (m : MonitorSample DiskActivity) :
    ∀ s ∈ activityRows item m,
      feeds (.databaseDisk item.zone item.resource.common.id w) s = true := by
  simp [activityRows,feeds,diskRead,diskWrite,identLabels,ident,List.lookup_cons]

theorem usageRows_fed (w : Window) (m : MonitorSample DatabaseUsage) :
    ∀ s ∈ usageRows item m,
      feeds (.databaseUsage item.zone item.resource.common.id w) s = true := by
  intro s hs
  rcases List.mem_append.mp hs with hs | hs
  · simp only [List.mem_cons,List.not_mem_nil,or_false] at hs
    rcases hs with rfl | rfl | rfl | rfl | rfl | rfl | rfl <;>
      simp [feeds,memorySize,memoryUsed,systemDiskSize,systemDiskUsed,backupDiskSize,backupDiskUsed,
        binlogUsed,identLabels,ident,List.lookup_cons]
  · split at hs
    · rw [List.mem_singleton.mp hs]
      simp [feeds,replicationDelay,identLabels,ident,List.lookup_cons]
    · exact absurd hs List.not_mem_nil

theorem batch_without {q : Call} {api api' : Api} (h : AgreeExcept q api api') :
    without feeds q (batch ctx api item).value = without feeds q (batch ctx api' item).value := by
  unfold batch
  split
  · refine without_append rfl (without_append (without_append (without_append ?_ ?_) ?_) ?_)
    · exact without_settled (call_value_of_agree h) (cpuRows_fed item _)
    · exact without_settled (call_value_of_agree h) (trafficRows_fed item _)
    · exact without_settled (call_value_of_agree h) (activityRows_fed item _)
    · exact without_settled (call_value_of_agree h) (usageRows_fed item _)
  · rfl

end Databases

namespace FileServers

variable (ctx : Context) (item : Zoned Nfs)

/-- A file server's free disk space or its first interface. -/
def feeds : Call → Sample → Bool
  | .nfsFreeDisk zone id _ => isOf [freeDiskSize] [("zone",zone),("id",id)]
  | .applianceTraffic zone id 0 _ => isOf [nicReceive,nicSend] [("zone",zone),("id",id)]
  | _ => fun _ => false

theorem freeRows_fed (w : Window) (m : MonitorSample FreeDisk) :
    ∀ s ∈ freeRows item m, feeds (.nfsFreeDisk item.zone item.resource.common.id w) s = true := by
  simp [freeRows,feeds,freeDiskSize,identLabels,ident,List.lookup_cons]

theorem trafficRows_fed (w : Window) (m : MonitorSample Traffic) :
    ∀ s ∈ trafficRows item m,
      feeds (.applianceTraffic item.zone item.resource.common.id 0 w) s = true := by
  simp [trafficRows,feeds,nicReceive,nicSend,identLabels,ident,List.lookup_cons]

theorem batch_without {q : Call} {api api' : Api} (h : AgreeExcept q api api') :
    without feeds q (batch ctx api item).value = without feeds q (batch ctx api' item).value := by
  unfold batch
  split
  · refine without_append rfl (without_append ?_ ?_)
    · exact without_settled (call_value_of_agree h) (freeRows_fed item _)
    · exact without_settled (call_value_of_agree h) (trafficRows_fed item _)
  · rfl

end FileServers

namespace LoadBalancers

variable (ctx : Context) (item : Zoned LoadBalancer)

/-- A load balancer's live status or its first interface. -/
def feeds : Call → Sample → Bool
  | .loadBalancerStatus zone id =>
    isOf [vipCps,serverUp,serverConnection,serverCps] [("zone",zone),("id",id)]
  | .applianceTraffic zone id 0 _ => isOf [receive,send] [("zone",zone),("id",id)]
  | _ => fun _ => false

theorem vipStatusRows_fed (vip : LoadBalancerVip) (i : Nat) (v : LoadBalancerVipStatus) :
    ∀ s ∈ vipStatusRows item vip i v,
      feeds (.loadBalancerStatus item.zone item.resource.common.id) s = true := by
  intro s hs
  rcases List.mem_cons.mp hs with rfl | hs
  · simp [feeds,vipCps,vipLabels,identLabels,vipIdent,ident,List.lookup_cons]
  · obtain ⟨rows,hr,hs⟩ := List.mem_flatten.mp hs
    obtain ⟨j,hj,rfl⟩ := List.mem_mapIdx.mp hr
    obtain ⟨u,-,hs⟩ := mem_rowsOf.mp hs
    simp only [serverStatusRows,List.mem_cons,List.not_mem_nil,or_false] at hs
    rcases hs with rfl | rfl | rfl <;>
      simp [feeds,serverUp,serverConnection,serverCps,serverLabels,vipLabels,identLabels,serverIdent,
        vipIdent,ident,List.lookup_cons]

theorem statusRows_fed (status : List LoadBalancerVipStatus) :
    ∀ s ∈ statusRows item status,
      feeds (.loadBalancerStatus item.zone item.resource.common.id) s = true := by
  intro s hs
  obtain ⟨rows,hr,hs⟩ := List.mem_flatten.mp hs
  obtain ⟨i,hi,rfl⟩ := List.mem_mapIdx.mp hr
  obtain ⟨v,-,hs⟩ := mem_rowsOf.mp hs
  exact vipStatusRows_fed item _ i v s hs

theorem trafficRows_fed (w : Window) (m : MonitorSample Traffic) :
    ∀ s ∈ trafficRows item m,
      feeds (.applianceTraffic item.zone item.resource.common.id 0 w) s = true := by
  simp [trafficRows,feeds,receive,send,identLabels,ident,List.lookup_cons]

theorem batch_without {q : Call} {api api' : Api} (h : AgreeExcept q api api') :
    without feeds q (batch ctx api item).value = without feeds q (batch ctx api' item).value := by
  refine without_append rfl ?_
  unfold readings
  cases item.resource.common.isUp with
  | true =>
    refine without_append ?_ ?_
    · exact without_fetched (call_value_of_agree h) (statusRows_fed item)
    · exact without_settled (call_value_of_agree h) (trafficRows_fed item _)
  | false =>
    refine without_append ?_ rfl
    exact without_fetched (call_value_of_agree h) (statusRows_fed item)

end LoadBalancers

namespace VpcRouters

variable (ctx : Context) (item : Zoned VpcRouter)

/-- A router's live status, its processor, or the interface at one place. -/
def feeds : Call → Sample → Bool
  | .vpcRouterStatus zone id =>
    isOf [sessionCount,dhcpLeaseCount,l2tpSessionCount,pptpSessionCount,peerStatus]
      [("zone",zone),("id",id)]
  | .applianceCpu zone id _ => isOf [cpuTime] [("zone",zone),("id",id)]
  | .applianceTraffic zone id index _ =>
    isOf [receive,send] [("zone",zone),("id",id),("nic_index",toString index)]
  | _ => fun _ => false

theorem statusRows_fed (status : VpcRouterStatus) :
    ∀ s ∈ statusRows item status,
      feeds (.vpcRouterStatus item.zone item.resource.common.id) s = true := by
  intro s hs
  rcases List.mem_append.mp hs with hs | hs
  · simp only [List.mem_append,List.mem_cons,List.not_mem_nil,or_false,List.mem_ite_nil_right] at hs
    rcases hs with ((rfl | rfl) | ⟨-,rfl⟩) | ⟨-,rfl⟩ <;>
      simp [feeds,sessionCount,dhcpLeaseCount,l2tpSessionCount,pptpSessionCount,identLabels,ident,
        List.lookup_cons]
  · obtain ⟨i,hi,rfl⟩ := List.mem_mapIdx.mp hs
    simp [feeds,peerStatus,identLabels,ident,List.lookup_cons]

theorem cpuRows_fed (w : Window) (m : MonitorSample CpuTime) :
    ∀ s ∈ cpuRows item m, feeds (.applianceCpu item.zone item.resource.common.id w) s = true := by
  simp [cpuRows,feeds,cpuTime,identLabels,ident,List.lookup_cons]

theorem trafficRows_fed (i : Nat) (w : Window) (m : MonitorSample Traffic) :
    ∀ s ∈ trafficRows item i m,
      feeds (.applianceTraffic item.zone item.resource.common.id i w) s = true := by
  simp [trafficRows,feeds,receive,send,nicLabels,identLabels,ident,List.lookup_cons]

theorem batch_without {q : Call} {api api' : Api} (h : AgreeExcept q api api') :
    without feeds q (batch ctx api item).value = without feeds q (batch ctx api' item).value := by
  refine without_append rfl ?_
  unfold readings
  dsimp only
  cases item.resource.common.isUp with
  | true =>
    simp only [if_true,Run.bind_value,Run.pure_value,Run.sequence_value,List.map_map,readingRows,
      List.flatMap_map]
    refine without_append (without_append ?_ ?_) (without_flatMap _ fun i => ?_)
    · exact without_fetched (call_value_of_agree h) (statusRows_fed item)
    · exact without_settled (call_value_of_agree h) (cpuRows_fed item _)
    · exact without_settled (call_value_of_agree h)
        (trafficRows_fed item i _)
  | false =>
    refine without_append (without_append ?_ rfl) rfl
    exact without_fetched (call_value_of_agree h) (statusRows_fed item)

end VpcRouters

namespace Internets

variable (ctx : Context) (item : Zoned Internet)

/-- A connection's traffic. -/
def feeds : Call → Sample → Bool
  | .internetTraffic zone id _ => isOf [inbound,outbound] [("zone",zone),("id",id)]
  | _ => fun _ => false

theorem trafficRows_fed (w : Window) (m : MonitorSample RouterTraffic) :
    ∀ s ∈ trafficRows item m, feeds (.internetTraffic item.zone item.resource.id w) s = true := by
  simp [trafficRows,feeds,inbound,outbound,identLabels,ident,List.lookup_cons]

theorem batch_without {q : Call} {api api' : Api} (h : AgreeExcept q api api') :
    without feeds q (batch ctx api item).value = without feeds q (batch ctx api' item).value :=
  without_append rfl
    (without_settled (call_value_of_agree h) (trafficRows_fed item _))

end Internets

namespace AutoBackups

variable (ctx : Context) (item : Zoned AutoBackup)

/-- The archives of a schedule. -/
def feeds : Call → Sample → Bool
  | .archives zone id => isOf [count,lastTime,archiveInfo] [("zone",zone),("id",id)]
  | _ => fun _ => false

theorem archiveRows_fed (archives : List Archive) :
    ∀ s ∈ archiveRows item archives, feeds (.archives item.zone item.resource.id) s = true := by
  intro s hs
  rcases List.mem_append.mp hs with hs | hs
  · rcases List.mem_cons.mp hs with rfl | hs
    · simp [feeds,count,identLabels,ident,List.lookup_cons]
    · obtain ⟨t,-,hs⟩ := mem_rowsOf.mp hs
      rw [List.mem_singleton.mp hs]
      simp [feeds,lastTime,identLabels,ident,List.lookup_cons]
  · obtain ⟨a,-,rfl⟩ := List.mem_map.mp hs
    simp [feeds,archiveInfo,Gauge.info,identLabels,ident,List.lookup_cons]

theorem batch_without {q : Call} {api api' : Api} (h : AgreeExcept q api api') :
    without feeds q (batch ctx api item).value = without feeds q (batch ctx api' item).value :=
  without_append rfl (without_fetched (call_value_of_agree h) (archiveRows_fed item))

end AutoBackups

namespace ProxyLbs

variable (ctx : Context) (item : Zoned ProxyLb)

/-- The health or the connections of a load balancer; its series carry no zone, and it is reached
through the global one. -/
def feeds : Call → Sample → Bool
  | .proxyLbHealth zone id => fun s => zone == globalZone && isOf [serverUp] [("id",id)] s
  | .proxyLbConnections zone id _ => fun s =>
    zone == globalZone && isOf [activeConnections,connectionPerSec] [("id",id)] s
  | _ => fun _ => false

variable {item} (hz : item.zone = globalZone)

include hz in
theorem healthRows_fed (health : ProxyLbHealth) :
    ∀ s ∈ healthRows item health, feeds (.proxyLbHealth item.zone item.resource.id) s = true := by
  intro s hs
  obtain ⟨i,hi,rfl⟩ := List.mem_mapIdx.mp hs
  simp [hz,feeds,serverUp,serverLabels,identLabels,serverIdent,ident,List.lookup_cons]

include hz in
theorem connectionRows_fed (w : Window) (m : MonitorSample Connections) :
    ∀ s ∈ connectionRows item m,
      feeds (.proxyLbConnections item.zone item.resource.id w) s = true := by
  simp [hz,connectionRows,feeds,activeConnections,connectionPerSec,identLabels,ident,List.lookup_cons]

include hz in
theorem batch_without {q : Call} {api api' : Api} (h : AgreeExcept q api api') :
    without feeds q (batch ctx api item).value = without feeds q (batch ctx api' item).value := by
  refine without_append rfl ?_
  unfold readings
  cases item.resource.isAvailable with
  | true =>
    refine without_append ?_ ?_
    · exact without_fetched (call_value_of_agree h) (healthRows_fed hz)
    · exact without_settled (call_value_of_agree h)
        (connectionRows_fed hz _)
  | false =>
    refine without_append ?_ rfl
    exact without_fetched (call_value_of_agree h) (healthRows_fed hz)

end ProxyLbs

theorem Listing.zone_mem_of_mem {api : Api} {α : Type} (l : Listing api α) {zones : List String}
    {r : Zoned α} (h : r ∈ l.resources zones) : r.zone ∈ zones := by
  obtain ⟨z,hz,hr⟩ := List.mem_flatMap.mp h
  obtain ⟨a,-,rfl⟩ := List.mem_map.mp hr
  exact hz

namespace Cycle

variable {ctx : Context} {api api' : Api} {α : Type} {c : Cycle ctx api α} {c' : Cycle ctx api' α}

/-- Cycles whose listings are answered alike, and whose batches are alike for what is listed, hand over
batches that are alike, in any orders of completion. -/
theorem batches_map_perm {β : Type} (f : Batch → β) (schedule schedule' : Schedule)
    (hzones : c.zones = c'.zones) (hanswer : c.answer = c'.answer)
    (hbatch : ∀ r ∈ c.listed, f (c.batch r).value = f (c'.batch r).value) :
    ((c.run schedule).journal.batches.map f).Perm ((c'.run schedule').journal.batches.map f) := by
  have hfails : ∀ z, api.fails (c.call z) = api'.fails (c'.call z) := by
    intro z
    rw [Api.fails,Api.fails,← c.errorOf?_answer,← c'.errorOf?_answer,hanswer]
  have hcomplete : c.isComplete c.zones = c'.isComplete c'.zones := by
    rw [Listing.isComplete,Listing.isComplete,hzones]
    simp only [hfails]
  have hlisted : c.listed = c'.listed := by
    rw [listed,listed,Listing.resources,Listing.resources,hzones,hanswer]
  cases h : c.isComplete c.zones with
  | true =>
    have hp := (c.batches_perm schedule h).map f
    have hp' := (c'.batches_perm schedule' (hcomplete.symm.trans h)).map f
    rw [List.map_map] at hp hp'
    refine hp.trans (.trans (.of_eq ?_) hp'.symm)
    rw [← hlisted]
    exact List.map_congr_left hbatch
  | false =>
    rw [(c.run_of_not_isComplete schedule h).2.batches,
      (c'.run_of_not_isComplete schedule' (hcomplete.symm.trans h)).2.batches]

end Cycle

namespace Kind

/-- The series that a call feeds in the batches of a kind. -/
def feeds : Kind → Call → Sample → Bool
  | .server => Servers.feeds
  | .database => Databases.feeds
  | .loadBalancer => LoadBalancers.feeds
  | .vpcRouter => VpcRouters.feeds
  | .nfs => FileServers.feeds
  | .internet => Internets.feeds
  | .autoBackup => AutoBackups.feeds
  | .proxyLb => ProxyLbs.feeds
  | .bill | .coupon => fun _ _ => false

variable (k : Kind) (s : Setting) (api : Api) {α : Type} {c : Cycle s.context s.api α}
  {c' : Cycle s.context api α}

/-- Two runs of a kind whose cycles differ in nothing but what the series of some call say. -/
theorem collect_batches_perm (hc : k.cycle? s = some ⟨α,c⟩)
    (hc' : k.cycle? { s with api } = some ⟨α,c'⟩)
    (hzones : c.zones = c'.zones) (hanswer : ∀ z, c.answer z = c'.answer z) {q : Call}
    (hbatch : ∀ r ∈ c.listed,
      without k.feeds q (c.batch r).value = without k.feeds q (c'.batch r).value)
    (schedule schedule' : Schedule) (caches caches' : Caches) :
    ((k.collect s schedule caches).journal.batches.map (without k.feeds q)).Perm
      ((k.collect { s with api } schedule' caches').journal.batches.map (without k.feeds q)) := by
  rw [collect_journal hc,collect_journal hc']
  exact Cycle.batches_map_perm _ schedule schedule' hzones (funext hanswer) hbatch

end Kind

theorem AgreeExcept.answer_eq {q : Call} {api api' : Api} (h : AgreeExcept q api api')
    (hq : q.isListing = false) {c : Call} (hc : c.isListing = true) : api c = api' c := by
  refine h c ?_
  rintro rfl
  rw [hc] at hq
  exact Bool.noConfusion hq

/-- Whatever one call beside the listings is answered with, and in whatever orders tasks complete, the
runs of a listing kind hand over the same batches once the series that the call feeds are left out. -/
theorem only_fed_series_differ {k : Kind} (hk : k.lists = true) {q : Call} (hq : q.isListing = false)
    (s : Setting) {api : Api} (h : AgreeExcept q s.api api) (schedule schedule' : Schedule)
    (caches caches' : Caches) :
    ((k.collect s schedule caches).journal.batches.map (without k.feeds q)).Perm
      ((k.collect { s with api } schedule' caches').journal.batches.map (without k.feeds q)) := by
  have hl : ∀ c : Call, c.isListing = true → s.api c = api c := fun _ => h.answer_eq hq
  cases k with
  | server =>
    refine Kind.collect_batches_perm .server s api rfl rfl rfl
      (fun z => hl (.servers z) rfl) (fun r _ => ?_) ..
    exact Servers.batch_without s.context r h
  | database =>
    refine Kind.collect_batches_perm .database s api rfl rfl rfl
      (fun z => hl (.databases z) rfl) (fun r _ => ?_) ..
    exact Databases.batch_without s.context r h
  | loadBalancer =>
    refine Kind.collect_batches_perm .loadBalancer s api rfl rfl rfl
      (fun z => hl (.loadBalancers z) rfl) (fun r _ => ?_) ..
    exact LoadBalancers.batch_without s.context r h
  | vpcRouter =>
    refine Kind.collect_batches_perm .vpcRouter s api rfl rfl rfl
      (fun z => hl (.vpcRouters z) rfl) (fun r _ => ?_) ..
    exact VpcRouters.batch_without s.context r h
  | nfs =>
    refine Kind.collect_batches_perm .nfs s api rfl rfl rfl
      (fun z => hl (.nfsAppliances z) rfl) (fun r _ => ?_) ..
    exact FileServers.batch_without s.context r h
  | internet =>
    refine Kind.collect_batches_perm .internet s api rfl rfl rfl
      (fun z => hl (.internets z) rfl) (fun r _ => ?_) ..
    exact Internets.batch_without s.context r h
  | autoBackup =>
    refine Kind.collect_batches_perm .autoBackup s api rfl rfl rfl
      (fun z => hl (.autoBackups z) rfl) (fun r _ => ?_) ..
    exact AutoBackups.batch_without s.context r h
  | proxyLb =>
    refine Kind.collect_batches_perm .proxyLb s api rfl rfl rfl
      (fun z => hl (.proxyLbs z) rfl) (fun r hr => ?_) ..
    exact ProxyLbs.batch_without s.context (List.mem_singleton.mp (Listing.zone_mem_of_mem _ hr)) h
  | bill | coupon => exact absurd hk Bool.false_ne_true

/-- The cloud with another answer to one call. -/
def answering (api : Api) (q : Call) (a : Except ApiError q.Answer) : Api :=
  fun c => if h : c = q then h ▸ a else api c

theorem agreeExcept_answering (api : Api) (q : Call) (a : Except ApiError q.Answer) :
    AgreeExcept q api (answering api q a) := by
  intro c hc
  rw [answering,dif_neg hc]

/-- Two load balancers of one virtual address each. Nothing but the listing is answered. -/
def twoBalancers : Api
  | .loadBalancers _ =>
    .ok [{ common := { id := "1" }, settings := { vips := [{ address := "192.0.2.1" }] } },
      { common := { id := "2" }, settings := { vips := [{ address := "192.0.2.2" }] } }]
  | c => .error (.transport c.path)

/-- The same load balancers, and the status of the first. -/
def twoBalancersOneStatus : Api :=
  answering twoBalancers (.loadBalancerStatus "tk1a" "1") (.ok [{ address := "192.0.2.1" }])

def oneZone (api : Api) : Setting :=
  { context := ⟨"loadbalancer",["tk1a"],default,"exporter"⟩, account := "1", now := .epoch, api }

/-- A status that comes or fails adds a row to the first batch and takes it away, and that is all. -/
theorem only_fed_series_differ_of_one_status :
    let q := Call.loadBalancerStatus "tk1a" "1"
    let j := (Kind.loadBalancer.collect (oneZone twoBalancers) {} {}).journal
    let j' := (Kind.loadBalancer.collect (oneZone twoBalancersOneStatus) {} {}).journal
    Kind.loadBalancer.lists = true ∧ q.isListing = false ∧
    AgreeExcept q twoBalancers twoBalancersOneStatus ∧
    j.batches.map List.length = [3,3] ∧ j'.batches.map List.length = [4,3] ∧
    (j.batches.map (without Kind.loadBalancer.feeds q)).Perm
      (j'.batches.map (without Kind.loadBalancer.feeds q)) := by
  intro q j j'
  have ha : AgreeExcept q twoBalancers twoBalancersOneStatus := agreeExcept_answering _ _ _
  have hd := only_fed_series_differ (k := .loadBalancer) rfl rfl (oneZone twoBalancers) ha {} {} {} {}
  exact ⟨rfl,rfl,ha,rfl,rfl,hd⟩

end CloudMetrics.Collect
