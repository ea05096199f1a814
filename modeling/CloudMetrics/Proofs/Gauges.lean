import CloudMetrics.Proofs.FailureAccounts
import CloudMetrics.Proofs.Isolation

/-!
# The gauges of each kind

Every sample belongs to one of the gauges of its kind. What records, live statuses and archives say is
as of now; only the rows of monitors are stamped with an instant.
-/
namespace CloudMetrics

open Cloud Metrics Time

namespace Metrics

/-- All samples of a batch have a property. -/
def Every (P : Sample → Prop) (b : Batch) : Prop := ∀ s ∈ b, P s

section
variable {P : Sample → Prop} {b c : Batch}

theorem Every.append (hb : Every P b) (hc : Every P c) : Every P (b++c) :=
  List.forall_mem_append.mpr ⟨hb,hc⟩

theorem Every.flatten_mapIdx {α : Type} {xs : List α} {f : Nat → α → Batch}
    (h : ∀ i x, Every P (f i x)) : Every P (xs.mapIdx f).flatten := by
  intro s hs
  obtain ⟨b,hb,hs⟩ := List.mem_flatten.mp hs
  obtain ⟨i,hi,rfl⟩ := List.mem_mapIdx.mp hb
  exact h i _ s hs

theorem Every.rowsOf {α : Type} {a : Option α} {rows : α → Batch} (h : ∀ x, Every P (rows x)) :
    Every P (Collect.rowsOf a rows) := by
  intro s hs
  obtain ⟨x,-,hs⟩ := Collect.mem_rowsOf.mp hs
  exact h x s hs

end

/-- Samples of some gauges, as of now. -/
abbrev Plain (gauges : List Gauge) : Batch → Prop :=
  Every fun s => ∃ g ∈ gauges, ∃ v values, s = g.sample v values

/-- Samples of some gauges. -/
abbrev Named (gauges : List Gauge) : Batch → Prop := Every fun s => ∃ g ∈ gauges, g.name = s.name

theorem Plain.time_eq_none {gauges : List Gauge} {b : Batch} (h : Plain gauges b) :
    ∀ s ∈ b, s.time = none := by
  intro s hs
  obtain ⟨g,-,v,values,rfl⟩ := h s hs
  rfl

theorem Plain.named {gauges : List Gauge} {b : Batch} (h : Plain gauges b) : Named gauges b := by
  intro s hs
  obtain ⟨g,hg,v,values,rfl⟩ := h s hs
  exact ⟨g,hg,rfl⟩

end Metrics

namespace Collect

namespace Servers

variable (item : Zoned Server)

def gauges : List Gauge :=
  [up,cpus,memories,info,nicInfo,diskInfo,cpuTime,nicReceive,nicSend,diskRead,diskWrite]

theorem rows_plain : Plain gauges (rows item) := by
  intro s hs
  simp only [rows,List.mem_append,List.mem_cons,List.not_mem_nil,or_false,List.mem_mapIdx] at hs
  rcases hs with ((rfl | rfl | rfl | rfl) | ⟨i,hi,rfl⟩) | ⟨i,hi,rfl⟩
  · exact ⟨up,by simp [gauges],_,_,rfl⟩
  · exact ⟨cpus,by simp [gauges],_,_,rfl⟩
  · exact ⟨memories,by simp [gauges],_,_,rfl⟩
  · exact ⟨info,by simp [gauges],_,_,rfl⟩
  · exact ⟨nicInfo,by simp [gauges],_,_,rfl⟩
  · exact ⟨diskInfo,by simp [gauges],_,_,rfl⟩

theorem readingRows_named (r : Readings) : Named gauges (readingRows item r) := by
  refine .append (.append (.rowsOf fun m => ?_) (.flatten_mapIdx fun i p => .rowsOf fun m => ?_))
    (.flatten_mapIdx fun i p => .rowsOf fun m => ?_)
  · simp [Every,cpuRows,gauges]
  · simp [Every,trafficRows,gauges]
  · simp [Every,activityRows,gauges]

theorem batch_named (ctx : Context) (api : Api) : Named gauges (batch ctx api item).value := by
  unfold batch
  split
  · exact (rows_plain item).named.append (readingRows_named item _)
  · exact (rows_plain item).named

end Servers

namespace Databases

variable (item : Zoned Database)

def gauges : List Gauge :=
  [up,info,cpuTime,memorySize,memoryUsed,systemDiskSize,systemDiskUsed,backupDiskSize,backupDiskUsed,
    binlogUsed,replicationDelay,nicReceive,nicSend,diskRead,diskWrite]

theorem rows_plain : Plain gauges (rows item) := by
  intro s hs
  simp only [rows,List.mem_cons,List.not_mem_nil,or_false] at hs
  rcases hs with rfl | rfl
  · exact ⟨up,by simp [gauges],_,_,rfl⟩
  · exact ⟨info,by simp [gauges],_,_,rfl⟩

theorem usageRows_named (m : MonitorSample DatabaseUsage) : Named gauges (usageRows item m) := by
  refine .append ?_ ?_
  · simp [Every,gauges]
  · split
    · simp [Every,gauges]
    · exact fun s hs => absurd hs List.not_mem_nil

theorem readingRows_named (r : Readings) : Named gauges (readingRows item r) := by
  refine .append (.append (.append (.rowsOf fun m => ?_) (.rowsOf fun m => ?_)) (.rowsOf fun m => ?_))
    (.rowsOf (usageRows_named item))
  · simp [Every,cpuRows,gauges]
  · simp [Every,trafficRows,gauges]
  · simp [Every,activityRows,gauges]

theorem batch_named (ctx : Context) (api : Api) : Named gauges (batch ctx api item).value := by
  unfold batch
  split
  · exact (rows_plain item).named.append (readingRows_named item _)
  · exact (rows_plain item).named

end Databases

namespace FileServers

variable (item : Zoned Nfs)

def gauges : List Gauge := [up,info,freeDiskSize,nicReceive,nicSend]

theorem rows_plain : Plain gauges (rows item) := by
  intro s hs
  simp only [rows,List.mem_cons,List.not_mem_nil,or_false] at hs
  rcases hs with rfl | rfl
  · exact ⟨up,by simp [gauges],_,_,rfl⟩
  · exact ⟨info,by simp [gauges],_,_,rfl⟩

theorem readingRows_named (r : Readings) : Named gauges (readingRows item r) := by
  refine .append (.rowsOf fun m => ?_) (.rowsOf fun m => ?_)
  · simp [Every,freeRows,gauges]
  · simp [Every,trafficRows,gauges]

theorem batch_named (ctx : Context) (api : Api) : Named gauges (batch ctx api item).value := by
  unfold batch
  split
  · exact (rows_plain item).named.append (readingRows_named item _)
  · exact (rows_plain item).named

end FileServers

namespace LoadBalancers

variable (item : Zoned LoadBalancer)

def gauges : List Gauge :=
  [up,info,vipInfo,serverInfo,vipCps,serverUp,serverConnection,serverCps,receive,send]

theorem vipRows_plain (vip : LoadBalancerVip) (i : Nat) : Plain gauges (vipRows item vip i) := by
  intro s hs
  simp only [vipRows,List.mem_cons,List.mem_mapIdx] at hs
  rcases hs with rfl | ⟨j,hj,rfl⟩
  · exact ⟨vipInfo,by simp [gauges],_,_,rfl⟩
  · exact ⟨serverInfo,by simp [gauges],_,_,rfl⟩

theorem rows_plain : Plain gauges (rows item) := by
  refine .append ?_ (.flatten_mapIdx fun i vip => vipRows_plain item vip i)
  intro s hs
  simp only [List.mem_cons,List.not_mem_nil,or_false] at hs
  rcases hs with rfl | rfl
  · exact ⟨up,by simp [gauges],_,_,rfl⟩
  · exact ⟨info,by simp [gauges],_,_,rfl⟩

theorem serverStatusRows_plain (labels : List String) (full : labels.length = serverLabels.length)
    (u : LoadBalancerServerStatus) : Plain gauges (serverStatusRows labels full u) := by
  intro s hs
  simp only [serverStatusRows,List.mem_cons,List.not_mem_nil,or_false] at hs
  rcases hs with rfl | rfl | rfl
  · exact ⟨serverUp,by simp [gauges],_,_,rfl⟩
  · exact ⟨serverConnection,by simp [gauges],_,_,rfl⟩
  · exact ⟨serverCps,by simp [gauges],_,_,rfl⟩

theorem vipStatusRows_plain (vip : LoadBalancerVip) (i : Nat) (v : LoadBalancerVipStatus) :
    Plain gauges (vipStatusRows item vip i v) := by
  have hservers : Plain gauges (vip.servers.mapIdx fun j server =>
      rowsOf (findServer v.servers server)
        (serverStatusRows (serverIdent item vip i server j) rfl)).flatten :=
    .flatten_mapIdx fun j server => .rowsOf fun u =>
      serverStatusRows_plain (serverIdent item vip i server j) rfl u
  intro s hs
  rcases List.mem_cons.mp hs with rfl | hs
  · exact ⟨vipCps,by simp [gauges],_,_,rfl⟩
  · exact hservers s hs

theorem statusRows_plain (status : List LoadBalancerVipStatus) : Plain gauges (statusRows item status) :=
  .flatten_mapIdx fun i vip => .rowsOf fun v => vipStatusRows_plain item vip i v

theorem trafficRows_named (m : MonitorSample Traffic) : Named gauges (trafficRows item m) := by
  simp [Every,trafficRows,gauges]

theorem batch_named (ctx : Context) (api : Api) : Named gauges (batch ctx api item).value :=
  (rows_plain item).named.append
    ((Plain.named (.rowsOf (statusRows_plain item))).append (.rowsOf (trafficRows_named item)))

end LoadBalancers

namespace VpcRouters

variable (item : Zoned VpcRouter)

def gauges : List Gauge :=
  [up,info,sessionCount,dhcpLeaseCount,l2tpSessionCount,pptpSessionCount,peerStatus,cpuTime,receive,send]

theorem rows_plain : Plain gauges (rows item) := by
  intro s hs
  simp only [rows,List.mem_cons,List.not_mem_nil,or_false] at hs
  rcases hs with rfl | rfl
  · exact ⟨up,by simp [gauges],_,_,rfl⟩
  · exact ⟨info,by simp [gauges],_,_,rfl⟩

theorem statusRows_plain (status : VpcRouterStatus) : Plain gauges (statusRows item status) := by
  intro s hs
  simp only [statusRows,List.mem_append,List.mem_cons,List.not_mem_nil,or_false,List.mem_ite_nil_right,
    List.mem_mapIdx] at hs
  rcases hs with (((rfl | rfl) | ⟨-,rfl⟩) | ⟨-,rfl⟩) | ⟨i,hi,rfl⟩
  · exact ⟨sessionCount,by simp [gauges],_,_,rfl⟩
  · exact ⟨dhcpLeaseCount,by simp [gauges],_,_,rfl⟩
  · exact ⟨l2tpSessionCount,by simp [gauges],_,_,rfl⟩
  · exact ⟨pptpSessionCount,by simp [gauges],_,_,rfl⟩
  · exact ⟨peerStatus,by simp [gauges],_,_,rfl⟩

theorem trafficRows_named (i : Nat) (m : MonitorSample Traffic) : Named gauges (trafficRows item i m) := by
  simp [Every,trafficRows,gauges]

theorem readingRows_named (r : Readings) : Named gauges (readingRows item r) := by
  refine .append ((Plain.named (.rowsOf (statusRows_plain item))).append (.rowsOf fun m => ?_)) ?_
  · simp [Every,cpuRows,gauges]
  · intro s hs
    obtain ⟨p,-,hs⟩ := List.mem_flatMap.mp hs
    exact Every.rowsOf (trafficRows_named item p.1) s hs

theorem batch_named (ctx : Context) (api : Api) : Named gauges (batch ctx api item).value :=
  (rows_plain item).named.append (readingRows_named item _)

end VpcRouters

namespace Internets

variable (item : Zoned Internet)

def gauges : List Gauge := [info,inbound,outbound]

theorem rows_plain : Plain gauges (rows item) := by
  intro s hs
  rw [List.mem_singleton.mp hs]
  exact ⟨info,by simp [gauges],_,_,rfl⟩

theorem trafficRows_named (m : MonitorSample RouterTraffic) : Named gauges (trafficRows item m) := by
  simp [Every,trafficRows,gauges]

theorem batch_named (ctx : Context) (api : Api) : Named gauges (batch ctx api item).value :=
  (rows_plain item).named.append (.rowsOf (trafficRows_named item))

end Internets

namespace AutoBackups

variable (item : Zoned AutoBackup)

def gauges : List Gauge := [info,count,lastTime,archiveInfo]

theorem rows_plain : Plain gauges (rows item) := by
  intro s hs
  rw [List.mem_singleton.mp hs]
  exact ⟨info,by simp [gauges],_,_,rfl⟩

theorem archiveRows_plain (archives : List Archive) : Plain gauges (archiveRows item archives) := by
  intro s hs
  simp only [archiveRows,List.mem_append,List.mem_cons,List.mem_map] at hs
  rcases hs with (rfl | hs) | ⟨a,-,rfl⟩
  · exact ⟨count,by simp [gauges],_,_,rfl⟩
  · obtain ⟨t,-,hs⟩ := mem_rowsOf.mp hs
    rw [List.mem_singleton.mp hs]
    exact ⟨lastTime,by simp [gauges],_,_,rfl⟩
  · exact ⟨archiveInfo,by simp [gauges],_,_,rfl⟩

theorem batch_plain (ctx : Context) (api : Api) : Plain gauges (batch ctx api item).value :=
  (rows_plain item).append (.rowsOf (archiveRows_plain item))

end AutoBackups

namespace ProxyLbs

variable (item : Zoned ProxyLb)

def gauges : List Gauge := [up,info,bindPortInfo,serverInfo,serverUp,activeConnections,connectionPerSec]

theorem rows_plain : Plain gauges (rows item) := by
  intro s hs
  simp only [rows,List.mem_append,List.mem_cons,List.not_mem_nil,or_false,List.mem_mapIdx] at hs
  rcases hs with ((rfl | rfl) | ⟨i,hi,rfl⟩) | ⟨i,hi,rfl⟩
  · exact ⟨up,by simp [gauges],_,_,rfl⟩
  · exact ⟨info,by simp [gauges],_,_,rfl⟩
  · exact ⟨bindPortInfo,by simp [gauges],_,_,rfl⟩
  · exact ⟨serverInfo,by simp [gauges],_,_,rfl⟩

theorem healthRows_plain (h : ProxyLbHealth) : Plain gauges (healthRows item h) := by
  intro s hs
  obtain ⟨i,hi,rfl⟩ := List.mem_mapIdx.mp hs
  exact ⟨serverUp,by simp [gauges],_,_,rfl⟩

theorem connectionRows_named (m : MonitorSample Connections) : Named gauges (connectionRows item m) := by
  simp [Every,connectionRows,gauges]

theorem batch_named (ctx : Context) (api : Api) : Named gauges (batch ctx api item).value :=
  (rows_plain item).named.append
    ((Plain.named (.rowsOf (healthRows_plain item))).append (.rowsOf (connectionRows_named item)))

end ProxyLbs

namespace Bills

def gauges : List Gauge := [amount]

theorem batch_plain (bills : List Bill) : Plain gauges (batch bills) := by
  intro s hs
  obtain ⟨b,-,rfl⟩ := Option.map_eq_some_iff.mp (Option.mem_toList.mp hs)
  exact ⟨amount,by simp [gauges],_,_,rfl⟩

end Bills

namespace Coupons

def gauges : List Gauge := [discount,remainingDays,expDate]

theorem rows_plain (c : Coupon) (ends now : Instant) : Plain gauges (rows c ends now) := by
  intro s hs
  simp only [rows,List.mem_cons,List.not_mem_nil,or_false] at hs
  rcases hs with rfl | rfl | rfl
  · exact ⟨discount,by simp [gauges],_,_,rfl⟩
  · exact ⟨remainingDays,by simp [gauges],_,_,rfl⟩
  · exact ⟨expDate,by simp [gauges],_,_,rfl⟩

theorem batch_plain (coupons : List Coupon) (now : Instant) : Plain gauges (batch coupons now) := by
  intro s hs
  obtain ⟨c,-,hs⟩ := List.mem_flatMap.mp hs
  obtain ⟨ends,-,hs⟩ := mem_rowsOf.mp hs
  split at hs
  · exact rows_plain c ends now s hs
  · exact absurd hs List.not_mem_nil

end Coupons

theorem Context.cached_batches (ctx : Context) (api : Api) (c : Call) (refresh : DailyRefresh)
    (now : Instant) (slot : Slot c.Answer) (stage : String) :
    (ctx.cached refresh now slot stage (.call api c)).journal.batches = [] := by
  unfold cached
  cases slot.get now with
  | some hit => rfl
  | none =>
    have hf : (ctx.fetch stage "account" (.call api c)).journal.batches = [] := by simp
    rw [Run.bind_journal,Journal.append_batches,hf]
    cases (ctx.fetch stage "account" (.call api c)).value <;> rfl

theorem Run.emit_batches (b : Batch) : (Run.emit b).journal.batches = [b].filter (!·.isEmpty) := by
  cases b <;> rfl

/-- A served value is handed over as one batch, unless that is empty. -/
theorem Bills.collect_batches (ctx : Context) (account : String) (now : Instant) (api : Api)
    (slot : Slot (List Bill)) : (collect ctx account now api slot).journal.batches =
      ((ctx.cached .billing now slot "bills" (.call api (.bills account))).value.value.map
        batch).toList.filter (!·.isEmpty) := by
  have hb := ctx.cached_batches api (.bills account) .billing now slot "bills"
  unfold collect
  rw [Run.bind_journal,Journal.append_batches,hb,List.nil_append]
  dsimp only
  cases (ctx.cached .billing now slot "bills" (.call api (.bills account))).value.value with
  | none => rfl
  | some bills => exact (List.append_nil _).trans (Run.emit_batches (batch bills))

theorem Coupons.collect_batches (ctx : Context) (account : String) (now : Instant) (api : Api)
    (slot : Slot (List Coupon)) : (collect ctx account now api slot).journal.batches =
      ((ctx.cached .billing now slot "coupons" (.call api (.coupons account))).value.value.map
        (batch · now)).toList.filter (!·.isEmpty) := by
  have hb := ctx.cached_batches api (.coupons account) .billing now slot "coupons"
  unfold collect
  rw [Run.bind_journal,Journal.append_batches,hb,List.nil_append]
  dsimp only
  cases (ctx.cached .billing now slot "coupons" (.call api (.coupons account))).value.value with
  | none => rfl
  | some coupons => exact (List.append_nil _).trans (Run.emit_batches (batch coupons now))

/-- At most one batch is handed over, of samples as of now. -/
def Journal.HandsOver (gauges : List Gauge) (j : Journal) : Prop :=
  ∃ b : Batch, Plain gauges b ∧ j.batches = [b].filter (!·.isEmpty)

/-- A served value is handed over as its rows. -/
theorem Context.cached_emit {β : Type} (ctx : Context) (api : Api) (c : Call) (refresh : DailyRefresh)
    (now : Instant) (slot : Slot c.Answer) (stage : String) {gauges : List Gauge}
    {rows : c.Answer → Batch} (hrows : ∀ a, Plain gauges (rows a)) (f : Served c.Answer → Run β)
    (hnone : ∀ served, served.value = none → (f served).journal = {})
    (hsome : ∀ served a, served.value = some a → (f served).journal = (Run.emit (rows a)).journal) :
    (ctx.cached refresh now slot stage (.call api c) >>= f).journal.HandsOver gauges := by
  have h := ctx.cached_batches api c refresh now slot stage
  generalize ctx.cached refresh now slot stage (.call api c) = x at h ⊢
  cases hv : x.value.value with
  | none =>
    refine ⟨[],fun s hs => absurd hs List.not_mem_nil,?_⟩
    rw [Run.bind_journal,hnone _ hv,Journal.append_empty,h]
    rfl
  | some a =>
    refine ⟨rows a,hrows a,?_⟩
    rw [Run.bind_journal,hsome _ a hv,Journal.append_batches,h,Run.emit]
    cases rows a <;> rfl

theorem Bills.collect_handsOver (ctx : Context) (account : String) (now : Instant) (api : Api)
    (slot : Slot (List Bill)) : (collect ctx account now api slot).journal.HandsOver gauges := by
  refine ctx.cached_emit api (.bills account) .billing now slot "bills" batch_plain _ ?_ ?_
  · intro served hv
    rw [hv]
    rfl
  · intro served bills hv
    rw [hv]
    exact Journal.append_empty _

theorem Coupons.collect_handsOver (ctx : Context) (account : String) (now : Instant) (api : Api)
    (slot : Slot (List Coupon)) : (collect ctx account now api slot).journal.HandsOver gauges := by
  refine ctx.cached_emit api (.coupons account) .billing now slot "coupons"
    (fun coupons => batch_plain coupons now) _ ?_ ?_
  · intro served hv
    rw [hv]
    rfl
  · intro served coupons hv
    rw [hv]
    exact Journal.append_empty _

theorem Journal.HandsOver.named {gauges : List Gauge} {j : Journal} (h : j.HandsOver gauges) :
    ∀ b ∈ j.batches, Named gauges b := by
  obtain ⟨b,hp,hb⟩ := h
  intro b' hm
  rw [hb] at hm
  rw [List.mem_singleton.mp (List.mem_of_mem_filter hm)]
  exact hp.named

namespace Kind

def gauges : Kind → List Gauge
  | .server => Servers.gauges
  | .database => Databases.gauges
  | .loadBalancer => LoadBalancers.gauges
  | .vpcRouter => VpcRouters.gauges
  | .nfs => FileServers.gauges
  | .internet => Internets.gauges
  | .autoBackup => AutoBackups.gauges
  | .proxyLb => ProxyLbs.gauges
  | .bill => Bills.gauges
  | .coupon => Coupons.gauges

theorem name_ne_empty_of_mem_gauges {k : Kind} {g : Gauge} : g ∈ k.gauges → g.name ≠ "" := by
  revert g
  cases k <;> decide

variable {k : Kind} {s : Setting}

theorem cycle_named {c : (α : Type) × Cycle s.context s.api α} (h : k.cycle? s = some c)
    (r : Zoned c.1) : Named k.gauges (c.2.batch r).value := by
  cases k <;> cases h
  · exact Servers.batch_named r _ _
  · exact Databases.batch_named r _ _
  · exact LoadBalancers.batch_named r _ _
  · exact VpcRouters.batch_named r _ _
  · exact FileServers.batch_named r _ _
  · exact Internets.batch_named r _ _
  · exact (AutoBackups.batch_plain r _ _).named
  · exact ProxyLbs.batch_named r _ _

variable (schedule : Schedule) (caches : Caches)

/-- Every sample of a run belongs to a gauge of its kind. -/
theorem collect_named (k : Kind) (s : Setting) :
    ∀ b ∈ (k.collect s schedule caches).journal.batches, Named k.gauges b := by
  cases hc : k.cycle? s with
  | some c =>
    rw [k.collect_journal hc schedule caches]
    intro b hb
    cases h : c.2.isComplete c.2.zones with
    | true =>
      obtain ⟨r,-,rfl⟩ := List.mem_map.mp ((c.2.batches_perm schedule h).mem_iff.mp hb)
      exact cycle_named hc r
    | false =>
      rw [(c.2.run_of_not_isComplete schedule h).2.batches] at hb
      exact absurd hb List.not_mem_nil
  | none =>
    cases k with
    | bill =>
      rw [bill_journal]
      exact (Bills.collect_handsOver ..).named
    | coupon =>
      rw [coupon_journal]
      exact (Coupons.collect_handsOver ..).named
    | _ => cases hc

end Kind

end Collect

end CloudMetrics
