import CloudMetrics.Proofs.TidyBatches

/-!
# Readings join the rows of their parts

A resource has parts: interfaces, disks, virtual addresses, servers. For each part there is one row of
information, and what was read for the part is in other rows, which are made elsewhere and count the parts
anew. All of them have the same labels for the part, and the place of the part is one of these labels. So
a reading joins exactly one row of information, also where parts have ids or addresses in common.
-/
namespace CloudMetrics

open Cloud Metrics Time

namespace Metrics

/-- The samples of some gauges, in their order. -/
def samplesOf (gauges : List Gauge) (b : Batch) : Batch := b.filter fun s => gauges.any fun g => g.name == s.name

/-- The values of some labels. -/
def Sample.values (s : Sample) (names : List String) : List (Option String) := names.map s.label?

section
variable {gs hs : List Gauge} {labels : List (String × String)} {a b : Batch} {s : Sample}

theorem mem_samplesOf : s ∈ samplesOf gs b ↔ s ∈ b ∧ ∃ g ∈ gs, g.name = s.name := by
  simp [samplesOf]

@[simp] theorem samplesOf_append : samplesOf gs (a++b) = samplesOf gs a ++ samplesOf gs b :=
  List.filter_append ..

theorem samplesOf_flatten_mapIdx {α : Type} {f : Nat → α → Batch} (xs : List α) :
    samplesOf gs (xs.mapIdx f).flatten = (xs.mapIdx fun i x => samplesOf gs (f i x)).flatten := by
  rw [samplesOf,List.filter_flatten,List.mapIdx_eq_zipIdx_map,List.mapIdx_eq_zipIdx_map,List.map_map]
  rfl

theorem samplesOf_flatMap {α : Type} {f : α → Batch} (xs : List α) :
    samplesOf gs (xs.flatMap f) = xs.flatMap fun x => samplesOf gs (f x) := by
  rw [samplesOf,List.filter_flatMap]
  rfl

/-- A batch of other gauges has no sample of these. -/
theorem Tidy.samplesOf_eq_nil (h : Tidy hs labels b) (hd : Apart gs hs) : samplesOf gs b = [] := by
  rw [List.eq_nil_iff_forall_not_mem]
  intro s hs
  obtain ⟨hs,g,hg,hn⟩ := mem_samplesOf.mp hs
  obtain ⟨g',hg',hf⟩ := h.fills s hs
  exact hd g hg g' hg' (hn.trans hf.name_eq)

theorem Tidy.samplesOf_eq_self (h : Tidy hs labels b) (hg : hs ⊆ gs) : samplesOf gs b = b := by
  rw [samplesOf,List.filter_eq_self]
  intro s hs
  obtain ⟨g,hg',hf⟩ := h.fills s hs
  exact List.any_eq_true.mpr ⟨g,hg hg',by rw [hf.name_eq,beq_self_eq_true]⟩

end

/-- What is known of some parts, each with the values that it has for some labels. The rows of information
are those of the record, one for each part and in the order of the parts, and every reading agrees in all
of these labels with exactly one of them. -/
structure Joined (record b : Batch) (info : Gauge) (readings : List Gauge) (names : List String)
    (parts : List (List String)) : Prop where
  recorded : samplesOf [info] b = samplesOf [info] record
  listed : (samplesOf [info] b).map (·.values names) = parts.map (·.map some)
  joins : ∀ s ∈ samplesOf readings b, (∀ n ∈ names, (s.label? n).isSome = true) ∧
    ∃ t, ((samplesOf [info] b).filter fun t => t.values names == s.values names) = [t]

theorem exists_filter_eq_singleton {α β : Type} [BEq β] [LawfulBEq β] {f : α → β} {xs : List α} {y : β}
    (hd : (xs.map f).Nodup) (hy : y ∈ xs.map f) : ∃ x, (xs.filter fun x => f x == y) = [x] := by
  apply List.length_eq_one_iff.mp
  rw [← List.countP_eq_length_filter]
  have hc := List.count_eq_one_of_mem hd hy
  rwa [List.count,List.countP_map] at hc

/-- Parts that differ are told apart, so it is enough that each reading has the labels of one. -/
theorem Joined.of_parts {record read : Batch} {info : Gauge} {readings : List Gauge} {names : List String}
    {parts : List (List String)} (hinfo : samplesOf [info] read = [])
    (hreadings : samplesOf readings record = [])
    (hlisted : (samplesOf [info] record).map (·.values names) = parts.map (·.map some))
    (hparts : parts.Nodup) (hread : ∀ s ∈ samplesOf readings read, ∃ part ∈ parts, s.values names = part.map some) :
    Joined record (record++read) info readings names parts := by
  have hr : samplesOf [info] (record++read) = samplesOf [info] record := by
    rw [samplesOf_append,hinfo,List.append_nil]
  have hinj : Function.Injective fun part : List String => part.map some :=
    List.map_injective_iff.mpr fun _ _ h => Option.some.inj h
  refine ⟨hr,hr ▸ hlisted,fun s hs => ?_⟩
  rw [samplesOf_append,hreadings,List.nil_append] at hs
  obtain ⟨part,hp,hv⟩ := hread s hs
  constructor
  · intro n hn
    have hm : s.label? n ∈ part.map some := hv ▸ List.mem_map_of_mem hn
    obtain ⟨v,-,he⟩ := List.mem_map.mp hm
    rw [← he]
    rfl
  · rw [hr]
    apply exists_filter_eq_singleton
    · rw [hlisted]
      exact hparts.map hinj
    · rw [hlisted,hv]
      exact List.mem_map_of_mem hp

theorem map_mapIdx {α β γ : Type} (f : Nat → α → β) (g : β → γ) (xs : List α) :
    (xs.mapIdx f).map g = xs.mapIdx fun i x => g (f i x) :=
  List.ext_getElem (by simp) (by simp)

theorem mem_mapIdx_of_getElem? {α β : Type} {f : Nat → α → β} {xs : List α} {i : Nat} {x : α}
    (h : xs[i]? = some x) : f i x ∈ xs.mapIdx f := by
  rw [List.mem_iff_getElem?]
  exact ⟨i,by rw [List.getElem?_mapIdx,h,Option.map_some]⟩

theorem mem_flatten_mapIdx {α β : Type} {f : Nat → α → List β} {xs : List α} {b : β} :
    b ∈ (xs.mapIdx f).flatten ↔ ∃ i x, xs[i]? = some x ∧ b ∈ f i x := by
  rw [List.mem_flatten]
  constructor
  · rintro ⟨bs,hbs,hb⟩
    obtain ⟨i,hi,rfl⟩ := List.mem_mapIdx.mp hbs
    exact ⟨i,_,List.getElem?_eq_getElem hi,hb⟩
  · rintro ⟨i,x,hx,hb⟩
    exact ⟨_,mem_mapIdx_of_getElem? hx,hb⟩

theorem flatten_mapIdx_singleton {α β : Type} (f : Nat → α → β) (xs : List α) :
    (xs.mapIdx fun i x => [f i x]).flatten = xs.mapIdx f := by
  rw [List.mapIdx_eq_zipIdx_map,List.mapIdx_eq_zipIdx_map]
  exact List.map_eq_flatMap.symm

theorem nodup_mapIdx {α β : Type} {f : Nat → α → β} (xs : List α)
    (h : ∀ i j x y, f i x = f j y → i = j) : (xs.mapIdx f).Nodup := by
  apply List.pairwise_iff_getElem.mpr
  intro i j hi hj hlt he
  rw [List.getElem_mapIdx,List.getElem_mapIdx] at he
  exact Nat.ne_of_lt hlt (h i j _ _ he)

theorem nodup_flatten_mapIdx {α β : Type} {f : Nat → α → List β} (xs : List α)
    (hd : ∀ i x, (f i x).Nodup) (h : ∀ i j x y b, b ∈ f i x → b ∈ f j y → i = j) :
    (xs.mapIdx f).flatten.Nodup := by
  rw [List.nodup_flatten]
  constructor
  · intro l hl
    obtain ⟨i,hi,rfl⟩ := List.mem_mapIdx.mp hl
    exact hd i _
  · apply List.pairwise_iff_getElem.mpr
    intro i j hi hj hlt b hb hb'
    rw [List.getElem_mapIdx] at hb hb'
    exact Nat.ne_of_lt hlt (h i j _ _ b hb hb')

end Metrics

namespace Collect

namespace Servers

variable (item : Zoned Server)

theorem samplesOf_nicInfo : samplesOf [nicInfo] (rows item) =
    item.resource.interfaces.mapIdx fun i nic => nicRow item nic i := by
  rw [rows,samplesOf_append,samplesOf_append,(nicRows_tidy item).samplesOf_eq_self (List.Subset.refl _),
    (diskRows_tidy item).samplesOf_eq_nil (by decide),List.append_nil]
  rfl

theorem samplesOf_diskInfo : samplesOf [diskInfo] (rows item) =
    item.resource.disks.mapIdx fun i disk => diskRow item disk i := by
  rw [rows,samplesOf_append,samplesOf_append,(nicRows_tidy item).samplesOf_eq_nil (by decide),
    (diskRows_tidy item).samplesOf_eq_self (List.Subset.refl _)]
  rfl

theorem exists_batch_eq (ctx : Context) (api : Api) :
    ∃ r, (batch ctx api item).value = rows item ++ readingRows item r := by
  unfold batch
  split
  · exact ⟨(readings ctx api item).value,rfl⟩
  · refine ⟨⟨none,[],[]⟩,?_⟩
    simp [readingRows,rowsOf]

theorem exists_interface {r : Readings} {s : Sample}
    (hs : s ∈ samplesOf [nicReceive,nicSend] (readingRows item r)) :
    ∃ i nic m, item.resource.interfaces[i]? = some nic ∧ s ∈ trafficRows item nic i m := by
  have hcpu := Tidy.rowsOf (cpuRows_tidy item) r.cpu
  rw [readingRows,samplesOf_append,samplesOf_append,hcpu.samplesOf_eq_nil (by decide),
    (diskReadings_tidy item r).samplesOf_eq_nil (by decide),List.nil_append,List.append_nil] at hs
  obtain ⟨hs,-⟩ := mem_samplesOf.mp hs
  obtain ⟨i,⟨nic,o⟩,hi,hs⟩ := mem_flatten_mapIdx.mp hs
  obtain ⟨m,-,hs⟩ := mem_rowsOf.mp hs
  exact ⟨i,nic,m,(List.getElem?_zip_eq_some.mp hi).1,hs⟩

theorem nics_joined (r : Readings) :
    Joined (rows item) (rows item ++ readingRows item r) nicInfo [nicReceive,nicSend]
      ["id","name","zone","interface_id","nic_index"]
      (item.resource.interfaces.mapIdx fun i nic =>
        [item.resource.id,item.resource.name,item.zone,nic.id,toString i]) := by
  apply Joined.of_parts ((readingRows_tidy item r).samplesOf_eq_nil (by decide))
    ((rows_tidy item).samplesOf_eq_nil (by decide))
  case hlisted =>
    rw [samplesOf_nicInfo,map_mapIdx,map_mapIdx]
    rfl
  case hparts =>
    apply nodup_mapIdx
    intro i j nic nic' he
    simp only [List.cons.injEq] at he
    exact toString_injective he.2.2.2.2.1
  case hread =>
    intro s hs
    obtain ⟨i,nic,m,hn,hs⟩ := exists_interface item hs
    refine ⟨_,mem_mapIdx_of_getElem? hn,?_⟩
    simp only [trafficRows,List.mem_cons,List.not_mem_nil,or_false] at hs
    rcases hs with rfl | rfl <;> rfl

theorem exists_disk {r : Readings} {s : Sample}
    (hs : s ∈ samplesOf [diskRead,diskWrite] (readingRows item r)) :
    ∃ i disk m, item.resource.disks[i]? = some disk ∧ s ∈ activityRows item disk i m := by
  have hcpu := Tidy.rowsOf (cpuRows_tidy item) r.cpu
  rw [readingRows,samplesOf_append,samplesOf_append,hcpu.samplesOf_eq_nil (by decide),
    (nicReadings_tidy item r).samplesOf_eq_nil (by decide),List.nil_append,List.nil_append] at hs
  obtain ⟨hs,-⟩ := mem_samplesOf.mp hs
  obtain ⟨i,⟨disk,o⟩,hi,hs⟩ := mem_flatten_mapIdx.mp hs
  obtain ⟨m,-,hs⟩ := mem_rowsOf.mp hs
  exact ⟨i,disk,m,(List.getElem?_zip_eq_some.mp hi).1,hs⟩

theorem disks_joined (r : Readings) :
    Joined (rows item) (rows item ++ readingRows item r) diskInfo [diskRead,diskWrite]
      ["id","name","zone","disk_id","disk_name","index"]
      (item.resource.disks.mapIdx fun i disk =>
        [item.resource.id,item.resource.name,item.zone,disk.id,disk.name,toString i]) := by
  apply Joined.of_parts ((readingRows_tidy item r).samplesOf_eq_nil (by decide))
    ((rows_tidy item).samplesOf_eq_nil (by decide))
  case hlisted =>
    rw [samplesOf_diskInfo,map_mapIdx,map_mapIdx]
    rfl
  case hparts =>
    apply nodup_mapIdx
    intro i j disk disk' he
    simp only [List.cons.injEq] at he
    exact toString_injective he.2.2.2.2.2.1
  case hread =>
    intro s hs
    obtain ⟨i,disk,m,hd,hs⟩ := exists_disk item hs
    refine ⟨_,mem_mapIdx_of_getElem? hd,?_⟩
    simp only [activityRows,List.mem_cons,List.not_mem_nil,or_false] at hs
    rcases hs with rfl | rfl <;> rfl

end Servers

namespace LoadBalancers

variable (item : Zoned LoadBalancer)

def vipRow (vip : LoadBalancerVip) (i : Nat) : Sample :=
  vipInfo.sample 1 (vipIdent item vip i ++ [vip.port,vip.delayLoop,vip.sorryServer,vip.description])

theorem vipRows_eq (vip : LoadBalancerVip) (i : Nat) :
    vipRows item vip i = [vipRow item vip i] ++ vip.servers.mapIdx fun j s => serverRow item vip i s j := rfl

theorem samplesOf_vipInfo : samplesOf [vipInfo] (rows item) =
    item.resource.settings.vips.mapIdx fun i vip => vipRow item vip i := by
  have hvip : ∀ i vip, samplesOf [vipInfo] (vipRows item vip i) = [vipRow item vip i] := by
    intro i vip
    rw [vipRows_eq,samplesOf_append,(serverRows_tidy item vip i).samplesOf_eq_nil (by decide),
      List.append_nil]
    rfl
  rw [rows,samplesOf_append,samplesOf_flatten_mapIdx]
  simp only [hvip,flatten_mapIdx_singleton]
  rfl

theorem samplesOf_serverInfo : samplesOf [serverInfo] (rows item) =
    (item.resource.settings.vips.mapIdx fun i vip =>
      vip.servers.mapIdx fun j s => serverRow item vip i s j).flatten := by
  have hvip : ∀ i vip, samplesOf [serverInfo] (vipRows item vip i) =
      vip.servers.mapIdx fun j s => serverRow item vip i s j := by
    intro i vip
    rw [vipRows_eq,samplesOf_append,(serverRows_tidy item vip i).samplesOf_eq_self (List.Subset.refl _)]
    rfl
  rw [rows,samplesOf_append,samplesOf_flatten_mapIdx]
  simp only [hvip]
  rfl

theorem readingRows_tidy (r : Readings) : Tidy [vipCps,serverUp,serverConnection,serverCps,receive,send]
    (place item.resource.common.id item.zone) (readingRows item r) :=
  (Tidy.rowsOf (statusRows_tidy item) r.status).append (Tidy.rowsOf (trafficRows_tidy item) r.traffic)
    (by decide)

/-- Of the gauges of the live status there are the samples of the status alone. -/
theorem samplesOf_readingRows (r : Readings) {gs : List Gauge} (hd : Apart gs [receive,send]) :
    samplesOf gs (readingRows item r) = samplesOf gs (rowsOf r.status (statusRows item)) := by
  have htraffic := Tidy.rowsOf (trafficRows_tidy item) r.traffic
  rw [readingRows,samplesOf_append,htraffic.samplesOf_eq_nil hd,List.append_nil]

theorem mem_statusRows {status : List LoadBalancerVipStatus} {s : Sample} :
    s ∈ statusRows item status ↔ ∃ i vip, item.resource.settings.vips[i]? = some vip ∧
      ∃ v, findVip status vip = some v ∧ s ∈ vipStatusRows item vip i v := by
  simp only [statusRows,mem_flatten_mapIdx,mem_rowsOf]

theorem mem_vipStatusRows {vip : LoadBalancerVip} {i : Nat} {v : LoadBalancerVipStatus} {s : Sample} :
    s ∈ vipStatusRows item vip i v ↔ s = vipCps.fill v.connectionsPerSecond (vipIdent item vip i) ∨
      ∃ j server, vip.servers[j]? = some server ∧ ∃ u, findServer v.servers server = some u ∧
        s ∈ serverStatusRows (serverIdent item vip i server j) rfl u := by
  simp only [vipStatusRows,List.mem_cons,mem_flatten_mapIdx,mem_rowsOf]

theorem vips_joined (r : Readings) :
    Joined (rows item) (rows item ++ readingRows item r) vipInfo [vipCps]
      ["id","name","zone","vip_index","vip"]
      (item.resource.settings.vips.mapIdx fun i vip =>
        [item.resource.common.id,item.resource.common.name,item.zone,toString i,vip.address]) := by
  apply Joined.of_parts ((readingRows_tidy item r).samplesOf_eq_nil (by decide))
    ((rows_tidy item).samplesOf_eq_nil (by decide))
  case hlisted =>
    rw [samplesOf_vipInfo,map_mapIdx,map_mapIdx]
    rfl
  case hparts =>
    apply nodup_mapIdx
    intro i j vip vip' he
    simp only [List.cons.injEq] at he
    exact toString_injective he.2.2.2.1
  case hread =>
    intro s hs
    rw [samplesOf_readingRows item r (by decide)] at hs
    obtain ⟨hs,hn⟩ := mem_samplesOf.mp hs
    obtain ⟨status,-,hs⟩ := mem_rowsOf.mp hs
    obtain ⟨i,vip,hi,v,-,hs⟩ := (mem_statusRows item).mp hs
    refine ⟨_,mem_mapIdx_of_getElem? hi,?_⟩
    rcases (mem_vipStatusRows item).mp hs with rfl | ⟨j,server,-,u,-,hs⟩
    · rfl
    · obtain ⟨g,hg,hf⟩ := (serverStatusRows_tidy item vip i j server u).fills s hs
      obtain ⟨g',hg',hn⟩ := hn
      have ha : Apart [vipCps] [serverUp,serverConnection,serverCps] := by decide
      exact absurd (hn.trans hf.name_eq) (ha g' hg' g hg)

theorem servers_joined (r : Readings) :
    Joined (rows item) (rows item ++ readingRows item r) serverInfo [serverUp,serverConnection,serverCps]
      ["id","name","zone","vip_index","vip","server_index","ipaddress"]
      (item.resource.settings.vips.mapIdx fun i vip => vip.servers.mapIdx fun j server =>
        [item.resource.common.id,item.resource.common.name,item.zone,toString i,vip.address,toString j,
          server.ipAddress]).flatten := by
  apply Joined.of_parts ((readingRows_tidy item r).samplesOf_eq_nil (by decide))
    ((rows_tidy item).samplesOf_eq_nil (by decide))
  case hlisted =>
    rw [samplesOf_serverInfo,List.map_flatten,List.map_flatten,map_mapIdx,map_mapIdx]
    simp only [map_mapIdx]
    rfl
  case hparts =>
    apply nodup_flatten_mapIdx
    · intro i vip
      apply nodup_mapIdx
      intro j k server server' he
      simp only [List.cons.injEq] at he
      exact toString_injective he.2.2.2.2.2.1
    · intro i j vip vip' part hi hj
      obtain ⟨k,hk,rfl⟩ := List.mem_mapIdx.mp hi
      obtain ⟨l,hl,he⟩ := List.mem_mapIdx.mp hj
      simp only [List.cons.injEq] at he
      exact toString_injective he.2.2.2.1.symm
  case hread =>
    intro s hs
    rw [samplesOf_readingRows item r (by decide)] at hs
    obtain ⟨hs,hn⟩ := mem_samplesOf.mp hs
    obtain ⟨status,-,hs⟩ := mem_rowsOf.mp hs
    obtain ⟨i,vip,hi,v,-,hs⟩ := (mem_statusRows item).mp hs
    rcases (mem_vipStatusRows item).mp hs with rfl | ⟨j,server,hj,u,-,hs⟩
    · obtain ⟨g,hg,hn⟩ := hn
      have ha : Apart [serverUp,serverConnection,serverCps] [vipCps] := by decide
      exact absurd hn (ha g hg vipCps (List.mem_singleton.mpr rfl))
    · refine ⟨_,mem_flatten_mapIdx.mpr ⟨i,vip,hi,mem_mapIdx_of_getElem? hj⟩,?_⟩
      simp only [serverStatusRows,List.mem_cons,List.not_mem_nil,or_false] at hs
      rcases hs with rfl | rfl | rfl <;> rfl

end LoadBalancers

namespace ProxyLbs

variable (item : Zoned ProxyLb)

theorem samplesOf_serverInfo : samplesOf [serverInfo] (rows item) =
    item.resource.settings.spec.servers.mapIdx fun i s => serverRow item s i := by
  have hservers := (serverRows_tidy item).samplesOf_eq_self (List.Subset.refl _)
  rw [← hservers]
  change samplesOf [serverInfo] ([_,_] ++ _ ++ _) = _
  rw [samplesOf_append,samplesOf_append,(bindPortRows_tidy item).samplesOf_eq_nil (by decide),List.append_nil]
  rfl

theorem readingRows_tidy (r : Readings) : Tidy [serverUp,activeConnections,connectionPerSec]
    [("id",item.resource.id)] (readingRows item r) :=
  (Tidy.rowsOf (healthRows_tidy item) r.health).append
    (Tidy.rowsOf (connectionRows_tidy item) r.connections) (by decide)

/-- Of the gauge of the health there are the samples of the health alone. -/
theorem samplesOf_readingRows (r : Readings) : samplesOf [serverUp] (readingRows item r) =
    rowsOf r.health (healthRows item) := by
  have hhealth := Tidy.rowsOf (healthRows_tidy item) r.health
  have hconnections := Tidy.rowsOf (connectionRows_tidy item) r.connections
  rw [readingRows,samplesOf_append,hhealth.samplesOf_eq_self (List.Subset.refl _),
    hconnections.samplesOf_eq_nil (by decide),List.append_nil]

theorem servers_joined (r : Readings) :
    Joined (rows item) (rows item ++ readingRows item r) serverInfo [serverUp]
      ["id","name","server_index","ipaddress","port"]
      (item.resource.settings.spec.servers.mapIdx fun i server =>
        [item.resource.id,item.resource.name,toString i,server.ipAddress,server.port]) := by
  apply Joined.of_parts ((readingRows_tidy item r).samplesOf_eq_nil (by decide))
    ((rows_tidy item).samplesOf_eq_nil (by decide))
  case hlisted =>
    rw [samplesOf_serverInfo,map_mapIdx,map_mapIdx]
    rfl
  case hparts =>
    apply nodup_mapIdx
    intro i j server server' he
    simp only [List.cons.injEq] at he
    exact toString_injective he.2.2.1
  case hread =>
    intro s hs
    rw [samplesOf_readingRows] at hs
    obtain ⟨health,-,hs⟩ := mem_rowsOf.mp hs
    obtain ⟨i,hi,rfl⟩ := List.mem_mapIdx.mp hs
    exact ⟨_,mem_mapIdx_of_getElem? (List.getElem?_eq_getElem hi),rfl⟩

end ProxyLbs

/-- A resource has one batch: what its record says, and what was read. Whatever was read, and whatever the
parts of the resource have in common: the rows of information are those of the record, one for each part, in
order and with its place; and a reading of a part agrees with exactly one of them in all labels of the part. -/
theorem readings_join_their_parts (ctx : Context) (api : Api) :
    (∀ item,
      (∃ r, ((Servers.cycle ctx api).deliver item).journal.batches =
        [Servers.rows item ++ Servers.readingRows item r]) ∧
      ∀ r, let b := Servers.rows item ++ Servers.readingRows item r
        Joined (Servers.rows item) b Servers.nicInfo [Servers.nicReceive,Servers.nicSend]
          ["id","name","zone","interface_id","nic_index"]
          (item.resource.interfaces.mapIdx fun i nic =>
            [item.resource.id,item.resource.name,item.zone,nic.id,toString i]) ∧
        Joined (Servers.rows item) b Servers.diskInfo [Servers.diskRead,Servers.diskWrite]
          ["id","name","zone","disk_id","disk_name","index"]
          (item.resource.disks.mapIdx fun i disk =>
            [item.resource.id,item.resource.name,item.zone,disk.id,disk.name,toString i])) ∧
    (∀ item,
      (∃ r, ((LoadBalancers.cycle ctx api).deliver item).journal.batches =
        [LoadBalancers.rows item ++ LoadBalancers.readingRows item r]) ∧
      ∀ r, let b := LoadBalancers.rows item ++ LoadBalancers.readingRows item r
        Joined (LoadBalancers.rows item) b LoadBalancers.vipInfo [LoadBalancers.vipCps]
          ["id","name","zone","vip_index","vip"]
          (item.resource.settings.vips.mapIdx fun i vip =>
            [item.resource.common.id,item.resource.common.name,item.zone,toString i,vip.address]) ∧
        Joined (LoadBalancers.rows item) b LoadBalancers.serverInfo
          [LoadBalancers.serverUp,LoadBalancers.serverConnection,LoadBalancers.serverCps]
          ["id","name","zone","vip_index","vip","server_index","ipaddress"]
          (item.resource.settings.vips.mapIdx fun i vip => vip.servers.mapIdx fun j server =>
            [item.resource.common.id,item.resource.common.name,item.zone,toString i,vip.address,
              toString j,server.ipAddress]).flatten) ∧
    ∀ item,
      (∃ r, ((ProxyLbs.cycle ctx api).deliver item).journal.batches =
        [ProxyLbs.rows item ++ ProxyLbs.readingRows item r]) ∧
      ∀ r, let b := ProxyLbs.rows item ++ ProxyLbs.readingRows item r
        Joined (ProxyLbs.rows item) b ProxyLbs.serverInfo [ProxyLbs.serverUp]
          ["id","name","server_index","ipaddress","port"]
          (item.resource.settings.spec.servers.mapIdx fun i server =>
            [item.resource.id,item.resource.name,toString i,server.ipAddress,server.port]) := by
  refine ⟨?servers,?balancers,?proxies⟩
  case servers =>
    intro item
    have hb := (Servers.cycle ctx api).deliver_batches item
    obtain ⟨r,hr⟩ := Servers.exists_batch_eq item ctx api
    constructor
    · exact ⟨r,by rw [hb,← hr]; rfl⟩
    · intro r
      exact ⟨Servers.nics_joined item r,Servers.disks_joined item r⟩
  case balancers =>
    intro item
    constructor
    · exact ⟨_,(LoadBalancers.cycle ctx api).deliver_batches item⟩
    · intro r
      exact ⟨LoadBalancers.vips_joined item r,LoadBalancers.servers_joined item r⟩
  case proxies =>
    intro item
    constructor
    · exact ⟨_,(ProxyLbs.cycle ctx api).deliver_batches item⟩
    · exact ProxyLbs.servers_joined item

end Collect

end CloudMetrics
