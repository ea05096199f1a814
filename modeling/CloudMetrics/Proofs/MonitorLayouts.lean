import CloudMetrics.Proofs.FailureAccounts
import CloudMetrics.Proofs.MonitorPoints
import CloudMetrics.Proofs.TidyBatches
import Mathlib.Data.List.Forall2

/-!
# The parts of a batch

A batch is laid out in parts. Some rows are as of now, and the layout says of which gauges they are; the
others belong to one monitor each, and for these the layout says which gauges show which numbers of a point.
Whatever the cloud answers, the rows of a monitor are those of its settled point: all of them or none, under
the instant of that point. No two series of a layout are the same, and the gauges of monitors have no other
rows.
-/
namespace CloudMetrics.Collect

open Cloud Metrics Time

/-- A gauge that shows one number of a monitor's points. -/
structure Series where
  gauge : Gauge
  labels : List String
  number : String
  scale : Float → Float

def Series.sample (s : Series) (q : Point × Instant) : Sample :=
  (s.gauge.sample (s.scale (Point.orZero q.1 s.number)) s.labels).stamped q.2

/-- The name and the labels of a series. -/
def Series.key (s : Series) : String × List (String × String) := (s.gauge.name,s.gauge.labels.zip s.labels)

inductive Part where
  /-- Rows of some gauges, as of now. -/
  | untimed (gauges : List Gauge)
  | monitor (call : Call) (series : List Series)

def Part.call? : Part → Option Call
  | .untimed _ => none
  | .monitor call _ => some call

def Part.series : Part → List Series
  | .untimed _ => []
  | .monitor _ series => series

/-- The monitors of a layout. -/
def monitors (layout : List Part) : List Call := layout.filterMap Part.call?

/-- The cloud answers a monitor with these points, visited in some order. -/
def Reports (api : Api) (c : Call) (points : MonitorPoints) : Prop :=
  ∃ visited answer, visited.Perm points ∧ c.measured? visited = some answer ∧ api c = .ok answer

theorem Reports.fails {api : Api} {c : Call} {points : MonitorPoints} (h : Reports api c points) :
    api.fails c = false := by
  obtain ⟨visited,answer,-,-,ha⟩ := h
  rw [Api.fails,Api.error?,ha]
  rfl

/-- What the rows of a part are. The order in which points are visited has no part in it. -/
def Part.Shows (api : Api) : Part → Batch → Prop
  | .untimed gauges, rows => Named gauges rows ∧ ∀ s ∈ rows, s.time = none
  | .monitor c series, rows =>
    (∃ o, rows = rowsOf o fun q => series.map fun s => s.sample q) ∧
    (api.fails c = true → rows = []) ∧
    ∀ points, Reports api c points → ((completePoints c.required points).map instant?).Nodup →
      ∃ o, (∀ o', Settled c.required points o' ↔ o' = o) ∧
        (o.isSome = true ↔ 2 ≤ (completePoints c.required points).length) ∧
        rows = rowsOf o fun q => series.map fun s => s.sample q

/-- A batch shows its parts one after the other. -/
def Shows (api : Api) (layout : List Part) (b : Batch) : Prop :=
  ∃ bs, List.Forall₂ (Part.Shows api) layout bs ∧ b = bs.flatten

/-- The rows of all monitors of a layout, were each to show the same point. -/
def drawn (layout : List Part) (q : Point × Instant) : Batch :=
  layout.flatMap fun p => p.series.map fun s => s.sample q

/-- The series of a layout all differ, and the gauges that they belong to have no rows as of now. -/
structure Separate (monitored : List Gauge) (layout : List Part) : Prop where
  named : ∀ s ∈ layout.flatMap Part.series, ∃ g ∈ monitored, g.name = s.gauge.name
  distinct : ((layout.flatMap Part.series).map Series.key).Nodup
  apart : ∀ gauges, .untimed gauges ∈ layout → Apart gauges monitored

section
variable {α : Type} {api : Api} {p : Part} {ps qs : List Part} {b c : Batch} {gauges monitored : List Gauge}
  {labels : List (String × String)} {q : Point × Instant}

/-- It is enough that the rows which all monitors could have are tidy. -/
theorem Separate.of_tidy (h : ∀ q, Tidy monitored labels (drawn ps q))
    (ha : ∀ gauges, .untimed gauges ∈ ps → Apart gauges monitored) : Separate monitored ps := by
  have hdrawn : drawn ps ([],.epoch) = (ps.flatMap Part.series).map fun s => s.sample ([],.epoch) := by
    rw [List.map_flatMap]
    rfl
  have h := h ([],.epoch)
  rw [hdrawn] at h
  refine ⟨fun s hs => ?_,?_,ha⟩
  · obtain ⟨g,hg,hf⟩ := h.fills _ (List.mem_map_of_mem hs)
    exact ⟨g,hg,hf.name_eq.symm⟩
  · have hd := h.distinct
    rw [List.map_map] at hd
    exact hd

/-- Rows as of now are apart from no gauges at all. -/
theorem Separate.of_untimed (gauges : List Gauge) : Separate [] [.untimed gauges] :=
  ⟨fun _ hs => absurd hs List.not_mem_nil,.nil,fun _ _ _ _ _ hg => absurd hg List.not_mem_nil⟩

theorem drawn_append (ps qs : List Part) : drawn (ps++qs) q = drawn ps q ++ drawn qs q :=
  List.flatMap_append

theorem drawn_one (p : Part) : drawn [p] q = p.series.map fun s => s.sample q := List.append_nil _

theorem drawn_mapIdx (xs : List α) (f : Nat → α → Part) : drawn (xs.mapIdx f) q =
    (xs.mapIdx fun i x => (f i x).series.map fun s => s.sample q).flatten := by
  rw [drawn,List.mapIdx_eq_zipIdx_map,List.mapIdx_eq_zipIdx_map,List.flatMap_map]
  rfl

theorem drawn_map (xs : List α) (f : α → Part) : drawn (xs.map f) q =
    xs.flatMap fun x => (f x).series.map fun s => s.sample q := by
  rw [drawn,List.flatMap_map]

theorem Shows.nil : Shows api [] [] := ⟨[],.nil,rfl⟩

theorem Shows.one (h : p.Shows api b) : Shows api [p] b :=
  ⟨[b],.cons h .nil,(List.append_nil b).symm⟩

theorem Shows.untimed (hn : Named gauges b) (ht : ∀ s ∈ b, s.time = none) : Shows api [.untimed gauges] b :=
  .one (p := .untimed gauges) ⟨hn,ht⟩

/-- Rows that come from a record are as of now. -/
theorem Shows.of_plain {all : List Gauge} (h : Tidy gauges labels b) (hp : Plain all b) :
    Shows api [.untimed gauges] b :=
  .untimed h.named hp.time_eq_none

theorem Shows.append (hb : Shows api ps b) (hc : Shows api qs c) : Shows api (ps++qs) (b++c) := by
  obtain ⟨bs,hbs,rfl⟩ := hb
  obtain ⟨cs,hcs,rfl⟩ := hc
  exact ⟨bs++cs,List.rel_append hbs hcs,List.flatten_append.symm⟩

theorem Shows.flatMap {f : α → Part} {g : α → Batch} (xs : List α) (h : ∀ x, (f x).Shows api (g x)) :
    Shows api (xs.map f) (xs.flatMap g) := by
  refine ⟨xs.map g,?_,rfl⟩
  rw [List.forall₂_map_left_iff,List.forall₂_map_right_iff,List.forall₂_same]
  exact fun x _ => h x

theorem Shows.mapIdx {f : Nat → α → Part} {g : Nat → α → Batch} (xs : List α)
    (h : ∀ i x, (f i x).Shows api (g i x)) : Shows api (xs.mapIdx f) (xs.mapIdx g).flatten := by
  rw [List.mapIdx_eq_zipIdx_map,List.mapIdx_eq_zipIdx_map]
  exact Shows.flatMap _ fun x => h x.2 x.1

theorem monitors_untimed (gauges : List Gauge) : monitors [.untimed gauges] = [] := rfl

theorem monitors_one (call : Call) (series : List Series) : monitors [.monitor call series] = [call] := rfl

theorem monitors_append (ps qs : List Part) : monitors (ps++qs) = monitors ps ++ monitors qs :=
  List.filterMap_append

theorem monitors_mapIdx (xs : List α) (call : α → Call) (series : Nat → α → List Series) :
    monitors (xs.mapIdx fun i x => .monitor (call x) (series i x)) = xs.map call := by
  induction xs generalizing series with
  | nil => rfl
  | cons x xs ih =>
    rw [List.mapIdx_cons]
    exact congrArg (call x :: ·) (ih fun i => series (i+1))

theorem monitors_map (xs : List α) (call : α → Call) (series : α → List Series) :
    monitors (xs.map fun x => .monitor (call x) (series x)) = xs.map call := by
  rw [monitors,List.filterMap_map]
  exact congrFun List.filterMap_eq_map xs

end

/-- The answer to a monitor is read from points, as values of one kind. -/
structure Measures (V : Type) [MonitorValue V] [Needs V] (api : Api) (c : Call)
    (answer : Except ApiError (List (MonitorSample V))) : Prop where
  required_eq : c.required = Needs.required V
  errorOf?_answer : errorOf? answer = api.error? c
  answer_eq : ∀ points a, c.measured? points = some a → api c = .ok a → answer = .ok (points.samples V)

section
variable {V : Type} [MonitorValue V] [Needs V] {api : Api} {c : Call}
  {answer : Except ApiError (List (MonitorSample V))}

theorem Measures.latestSettled (hm : Measures V api c answer) {points : MonitorPoints}
    (hr : Reports api c points) (hd : ((completePoints c.required points).map instant?).Nodup) :
    ∃ o, Settled c.required points o ∧
      answer.toOption.bind latestSettled = o.map fun q => ⟨q.2,Needs.read q.1⟩ := by
  obtain ⟨visited,a,hv,ha,he⟩ := hr
  rw [hm.required_eq] at hd ⊢
  rw [hm.answer_eq visited a ha he]
  exact latestSettled_samples hv hd

/-- The rows of a monitor, when each shows numbers of one point under its instant. -/
theorem Measures.shows (hm : Measures V api c answer) {ctx : Context} {stage subject : String}
    {query : Run (Except Failure (List (MonitorSample V)))} (hq : query.value = answer.mapError .ofApi)
    {rows : MonitorSample V → Batch} {series : List Series}
    (hrows : ∀ q : Point × Instant, rows ⟨q.2,Needs.read q.1⟩ = series.map fun s => s.sample q) :
    (Part.monitor c series).Shows api (rowsOf (ctx.settled stage subject query).value rows) := by
  have hv : (ctx.settled stage subject query).value = answer.toOption.bind Collect.latestSettled := by
    rw [Context.settled_value,hq]
    cases answer <;> rfl
  rw [hv]
  refine ⟨?_,?_,?_⟩
  · cases answer.toOption.bind Collect.latestSettled with
    | none => exact ⟨none,rfl⟩
    | some m =>
      obtain ⟨p,hp⟩ := Needs.measured m.value
      refine ⟨some (p,m.time),?_⟩
      have hm := hrows (p,m.time)
      rw [hp] at hm
      exact hm
  · intro hf
    rw [Api.fails,← hm.errorOf?_answer] at hf
    cases answer with
    | ok a => exact absurd hf Bool.false_ne_true
    | error e => rfl
  · intro points hr hd
    obtain ⟨o,ho,ha⟩ := hm.latestSettled hr hd
    refine ⟨o,fun o' => ⟨fun h => h.unique hd ho,?_⟩,ho.isSome_iff,?_⟩
    · rintro rfl
      exact ho
    · rw [ha]
      cases o with
      | none => rfl
      | some q => exact hrows q

end

/-- A call measures values of a kind when its answers are samples of that kind. -/
theorem Measures.of_answer {V : Type} [MonitorValue V] [Needs V] {api : Api} {c : Call}
    (hv : c.Answer = List (MonitorSample V)) (hr : c.required = Needs.required V)
    (hm : ∀ points, c.measured? points = some (cast hv.symm (points.samples V))) :
    Measures V api c (cast (congrArg (Except ApiError) hv) (api c)) := by
  have herror : ∀ {A B : Type} (h : A = B) (x : Except ApiError A),
      errorOf? (cast (congrArg (Except ApiError) h) x) = errorOf? x := by
    rintro A B rfl x
    rfl
  have hok : ∀ {A B : Type} (h : A = B) (b : B),
      cast (congrArg (Except ApiError) h) (.ok (cast h.symm b)) = .ok b := by
    rintro A B rfl b
    rfl
  refine ⟨hr,herror hv _,fun points a ha he => ?_⟩
  rw [hm points,Option.some.injEq] at ha
  rw [he,← ha]
  exact hok hv _

namespace Servers

variable (ctx : Context) (api : Api) (item : Zoned Server)

def monitored : List Gauge := [cpuTime,nicReceive,nicSend,diskRead,diskWrite]

/-- The processor, every interface and every disk of a server that is up. -/
def layout (w : Window) (item : Zoned Server) : List Part :=
  [.untimed [up,cpus,memories,info,nicInfo,diskInfo]] ++ if item.resource.isUp then
    [.monitor (.serverCpu item.zone item.resource.id w) [⟨cpuTime,ident item,"CPU-TIME",(·*1000)⟩]]
      ++ item.resource.interfaces.mapIdx (fun i nic =>
        let labels := ident item ++ [nic.id,toString i]
        .monitor (.interfaceTraffic item.zone nic.id w)
          [⟨nicReceive,labels,"Receive",(·*8)⟩,⟨nicSend,labels,"Send",(·*8)⟩])
      ++ item.resource.disks.mapIdx (fun i disk =>
        let labels := ident item ++ [disk.id,disk.name,toString i]
        .monitor (.diskActivity item.zone disk.id w)
          [⟨diskRead,labels,"Read",id⟩,⟨diskWrite,labels,"Write",id⟩])
  else []

theorem batch_shows : Shows api (layout ctx.window item) (batch ctx api item).value := by
  unfold batch layout
  split
  · rw [Run.bind_value,Run.pure_value,readings_value]
    simp only [readingRows,mapIdx_zip_map]
    refine .append (.of_plain (rows_tidy item) (rows_plain item)) (.append (.append ?_ ?_) ?_)
    · exact .one ((Measures.of_answer rfl rfl fun _ => rfl).shows (Run.call_value api _) fun _ => rfl)
    · refine .mapIdx _ fun i nic => ?_
      exact (Measures.of_answer rfl rfl fun _ => rfl).shows (Run.call_value api _) fun _ => rfl
    · refine .mapIdx _ fun i disk => ?_
      exact (Measures.of_answer rfl rfl fun _ => rfl).shows (Run.call_value api _) fun _ => rfl
  · exact .of_plain (rows_tidy item) (rows_plain item)

theorem drawn_tidy (w : Window) (q : Point × Instant) :
    Tidy monitored (place item.resource.id item.zone) (drawn (layout w item) q) := by
  have hcpu := cpuRows_tidy item ⟨q.2,Needs.read q.1⟩
  have hnics := Tidy.flatten_mapIdx (fun i nic => trafficRows_tidy item i nic ⟨q.2,Needs.read q.1⟩)
    item.resource.interfaces
  have hdisks := Tidy.flatten_mapIdx (fun i disk => activityRows_tidy item i disk ⟨q.2,Needs.read q.1⟩)
    item.resource.disks
  unfold layout
  split
  · rw [drawn_append,drawn_append,drawn_append,drawn_mapIdx,drawn_mapIdx]
    exact (hcpu.append hnics (by decide)).append hdisks (by decide)
  · exact .nil

theorem layout_separate (w : Window) : Separate monitored (layout w item) := by
  refine .of_tidy (drawn_tidy item w) fun gauges hg => ?_
  have hone : gauges = [up,cpus,memories,info,nicInfo,diskInfo] := by
    unfold layout at hg
    split at hg <;> simpa using hg
  rw [hone]
  decide

theorem monitors_layout (w : Window) :
    monitors (layout w item) = (plan w item).filter Call.isMonitor := by
  unfold layout plan
  split
  · simp only [monitors_append,monitors_untimed,monitors_one,monitors_mapIdx,List.filter_append,
      List.filter_cons,List.filter_map]
    simp [Call.isMonitor,Function.comp_def]
  · rfl

end Servers

namespace Databases

variable (ctx : Context) (api : Api) (item : Zoned Database)

def monitored : List Gauge :=
  [cpuTime,nicReceive,nicSend,diskRead,diskWrite,memorySize,memoryUsed,systemDiskSize,systemDiskUsed,
    backupDiskSize,backupDiskUsed,binlogUsed,replicationDelay]

/-- The gauges of the usage; only a database that follows another one is behind. -/
def usageSeries (item : Zoned Database) : List Series :=
  [⟨memorySize,ident item,"Total-Memory-Size",id⟩,⟨memoryUsed,ident item,"Used-Memory-Size",id⟩,
    ⟨systemDiskSize,ident item,"Total-Disk1-Size",id⟩,⟨systemDiskUsed,ident item,"Used-Disk1-Size",id⟩,
    ⟨backupDiskSize,ident item,"Total-Disk2-Size",id⟩,⟨backupDiskUsed,ident item,"Used-Disk2-Size",id⟩,
    ⟨binlogUsed,ident item,"binlogUsedSizeKiB",id⟩]
    ++ if item.resource.replicationRole = "slave" then
      [⟨replicationDelay,ident item,"delayTimeSec",id⟩] else []

/-- The processor, the interface, the disk and the usage of a database that is up. -/
def layout (w : Window) (item : Zoned Database) : List Part :=
  [.untimed [up,info]] ++ if item.resource.common.isUp then
    [.monitor (.applianceCpu item.zone item.resource.common.id w) [⟨cpuTime,ident item,"CPU-TIME",(·*1000)⟩]]
      ++ [.monitor (.applianceTraffic item.zone item.resource.common.id 0 w)
        [⟨nicReceive,ident item,"Receive",(·*8)⟩,⟨nicSend,ident item,"Send",(·*8)⟩]]
      ++ [.monitor (.databaseDisk item.zone item.resource.common.id w)
        [⟨diskRead,ident item,"Read",id⟩,⟨diskWrite,ident item,"Write",id⟩]]
      ++ [.monitor (.databaseUsage item.zone item.resource.common.id w) (usageSeries item)]
  else []

theorem usageRows_eq (q : Point × Instant) :
    usageRows item ⟨q.2,Needs.read q.1⟩ = (usageSeries item).map fun s => s.sample q := by
  unfold usageRows usageSeries
  split <;> rfl

theorem batch_shows : Shows api (layout ctx.window item) (batch ctx api item).value := by
  unfold batch layout
  split
  · refine .append (.of_plain (rows_tidy item) (rows_plain item)) (.append (.append (.append ?_ ?_) ?_) ?_)
    · exact .one ((Measures.of_answer rfl rfl fun _ => rfl).shows (Run.call_value api _) fun _ => rfl)
    · exact .one ((Measures.of_answer rfl rfl fun _ => rfl).shows (Run.call_value api _) fun _ => rfl)
    · exact .one ((Measures.of_answer rfl rfl fun _ => rfl).shows (Run.call_value api _) fun _ => rfl)
    · exact .one ((Measures.of_answer rfl rfl fun _ => rfl).shows (Run.call_value api _) (usageRows_eq item))
  · exact .of_plain (rows_tidy item) (rows_plain item)

theorem drawn_tidy (w : Window) (q : Point × Instant) :
    Tidy monitored (place item.resource.common.id item.zone) (drawn (layout w item) q) := by
  have hcpu := cpuRows_tidy item ⟨q.2,Needs.read q.1⟩
  have hnic := trafficRows_tidy item ⟨q.2,Needs.read q.1⟩
  have hdisk := activityRows_tidy item ⟨q.2,Needs.read q.1⟩
  have husage := usageRows_tidy item ⟨q.2,Needs.read q.1⟩
  rw [usageRows_eq] at husage
  unfold layout
  split
  · simp only [drawn_append,drawn_one]
    exact ((hcpu.append hnic (by decide)).append hdisk (by decide)).append husage (by decide)
  · exact .nil

theorem layout_separate (w : Window) : Separate monitored (layout w item) := by
  refine .of_tidy (drawn_tidy item w) fun gauges hg => ?_
  have hone : gauges = [up,info] := by
    unfold layout at hg
    split at hg <;> simpa using hg
  rw [hone]
  decide

theorem monitors_layout (w : Window) :
    monitors (layout w item) = (plan w item).filter Call.isMonitor := by
  unfold layout plan
  cases item.resource.common.isUp <;> rfl

end Databases

namespace FileServers

variable (ctx : Context) (api : Api) (item : Zoned Nfs)

def monitored : List Gauge := [freeDiskSize,nicReceive,nicSend]

/-- The free disk space and the interface of a file server that is up. -/
def layout (w : Window) (item : Zoned Nfs) : List Part :=
  [.untimed [up,info]] ++ if item.resource.common.isUp then
    [.monitor (.nfsFreeDisk item.zone item.resource.common.id w) [⟨freeDiskSize,ident item,"Free-Disk-Size",id⟩]]
      ++ [.monitor (.applianceTraffic item.zone item.resource.common.id 0 w)
        [⟨nicReceive,ident item,"Receive",(·*8)⟩,⟨nicSend,ident item,"Send",(·*8)⟩]]
  else []

theorem batch_shows : Shows api (layout ctx.window item) (batch ctx api item).value := by
  unfold batch layout
  split
  · refine .append (.of_plain (rows_tidy item) (rows_plain item)) (.append ?_ ?_)
    · exact .one ((Measures.of_answer rfl rfl fun _ => rfl).shows (Run.call_value api _) fun _ => rfl)
    · exact .one ((Measures.of_answer rfl rfl fun _ => rfl).shows (Run.call_value api _) fun _ => rfl)
  · exact .of_plain (rows_tidy item) (rows_plain item)

theorem drawn_tidy (w : Window) (q : Point × Instant) :
    Tidy monitored (place item.resource.common.id item.zone) (drawn (layout w item) q) := by
  have hfree := freeRows_tidy item ⟨q.2,Needs.read q.1⟩
  have hnic := trafficRows_tidy item ⟨q.2,Needs.read q.1⟩
  unfold layout
  split
  · exact hfree.append hnic (by decide)
  · exact .nil

theorem layout_separate (w : Window) : Separate monitored (layout w item) := by
  refine .of_tidy (drawn_tidy item w) fun gauges hg => ?_
  have hone : gauges = [up,info] := by
    unfold layout at hg
    split at hg <;> simpa using hg
  rw [hone]
  decide

theorem monitors_layout (w : Window) :
    monitors (layout w item) = (plan w item).filter Call.isMonitor := by
  unfold layout plan
  cases item.resource.common.isUp <;> rfl

end FileServers

namespace LoadBalancers

variable (ctx : Context) (api : Api) (item : Zoned LoadBalancer)

def monitored : List Gauge := [receive,send]

/-- The interface of a load balancer that is up. -/
def layout (w : Window) (item : Zoned LoadBalancer) : List Part :=
  [.untimed [up,info,vipInfo,serverInfo]]
    ++ ([.untimed [vipCps,serverUp,serverConnection,serverCps]] ++ if item.resource.common.isUp then
    [.monitor (.applianceTraffic item.zone item.resource.common.id 0 w)
      [⟨receive,ident item,"Receive",(·*8)⟩,⟨send,ident item,"Send",(·*8)⟩]]
  else [])

theorem batch_shows : Shows api (layout ctx.window item) (batch ctx api item).value := by
  have hrows : Shows api [.untimed [up,info,vipInfo,serverInfo]] (rows item) :=
    .of_plain (rows_tidy item) (rows_plain item)
  have hstatus : ∀ status : Option (List LoadBalancerVipStatus),
      Shows api [.untimed [vipCps,serverUp,serverConnection,serverCps]] (rowsOf status (statusRows item)) :=
    fun status => .of_plain (.rowsOf (statusRows_tidy item) status) (.rowsOf (statusRows_plain item))
  refine hrows.append ?_
  unfold readings
  cases item.resource.common.isUp with
  | true =>
    refine (hstatus _).append (.one ?_)
    exact (Measures.of_answer rfl rfl fun _ => rfl).shows (Run.call_value api _) fun _ => rfl
  | false => exact (hstatus _).append .nil

theorem drawn_tidy (w : Window) (q : Point × Instant) :
    Tidy monitored (place item.resource.common.id item.zone) (drawn (layout w item) q) := by
  unfold layout
  split
  · exact trafficRows_tidy item ⟨q.2,Needs.read q.1⟩
  · exact .nil

theorem layout_separate (w : Window) : Separate monitored (layout w item) := by
  refine .of_tidy (drawn_tidy item w) fun gauges hg => ?_
  have htwo : gauges = [up,info,vipInfo,serverInfo] ∨ gauges = [vipCps,serverUp,serverConnection,serverCps] := by
    unfold layout at hg
    split at hg <;> simpa using hg
  rcases htwo with rfl | rfl <;> decide

theorem monitors_layout (w : Window) :
    monitors (layout w item) = (plan w item).filter Call.isMonitor := by
  unfold layout plan
  cases item.resource.common.isUp <;> rfl

end LoadBalancers

namespace VpcRouters

variable (ctx : Context) (api : Api) (item : Zoned VpcRouter)

def monitored : List Gauge := [cpuTime,receive,send]

/-- The processor of a router that is up, and each interface that has a switch. -/
def layout (w : Window) (item : Zoned VpcRouter) : List Part :=
  [.untimed [up,info]] ++ ([.untimed [sessionCount,dhcpLeaseCount,l2tpSessionCount,pptpSessionCount,peerStatus]]
    ++ if item.resource.common.isUp then
    [.monitor (.applianceCpu item.zone item.resource.common.id w)
      [⟨cpuTime,ident item,"CPU-TIME",(·*1000)⟩]]
      ++ (switchedPlaces item.resource.common).map fun i =>
        let slot := slot? item.resource i
        let labels := ident item ++ [toString i,slotVip slot,slotAddress slot 0,slotMask slot]
        .monitor (.applianceTraffic item.zone item.resource.common.id i w)
          [⟨receive,labels,"Receive",(·*8)⟩,⟨send,labels,"Send",(·*8)⟩]
  else [])

theorem batch_shows : Shows api (layout ctx.window item) (batch ctx api item).value := by
  have hrows : Shows api [.untimed [up,info]] (rows item) :=
    .of_plain (rows_tidy item) (rows_plain item)
  have hstatus : ∀ status : Option VpcRouterStatus,
      Shows api [.untimed [sessionCount,dhcpLeaseCount,l2tpSessionCount,pptpSessionCount,peerStatus]]
        (rowsOf status (statusRows item)) :=
    fun status => .of_plain (.rowsOf (statusRows_tidy item) status) (.rowsOf (statusRows_plain item))
  refine hrows.append ?_
  unfold readings
  dsimp only
  rw [← attached_eq_switchedPlaces]
  cases item.resource.common.isUp with
  | true =>
    simp only [if_true,Run.bind_value,Run.pure_value,Run.sequence_value,List.map_map,readingRows,
      List.flatMap_map,List.append_assoc]
    refine (hstatus _).append (.append (.one ?_) (.flatMap _ fun i => ?_))
    · exact (Measures.of_answer rfl rfl fun _ => rfl).shows (Run.call_value api _) fun _ => rfl
    · exact (Measures.of_answer rfl rfl fun _ => rfl).shows (Run.call_value api _) fun _ => rfl
  | false => exact ((hstatus _).append .nil).append .nil

theorem drawn_tidy (w : Window) (q : Point × Instant) :
    Tidy monitored (place item.resource.common.id item.zone) (drawn (layout w item) q) := by
  have hcpu := cpuRows_tidy item ⟨q.2,Needs.read q.1⟩
  have hplaces : (switchedPlaces item.resource.common).Nodup := (pairwise_switchedPlaces _).imp Nat.ne_of_lt
  have hnics := Tidy.flatMap ["nic_index"] (hplaces.map singleton_toString_injective) (fun _ _ => rfl) fun i _ =>
    trafficRows_tidy item i ⟨q.2,Needs.read q.1⟩
  unfold layout
  split
  · rw [drawn_append,drawn_append,drawn_append,drawn_map]
    exact hcpu.append hnics (by decide)
  · exact .nil

theorem layout_separate (w : Window) : Separate monitored (layout w item) := by
  refine .of_tidy (drawn_tidy item w) fun gauges hg => ?_
  have htwo : gauges = [up,info] ∨
      gauges = [sessionCount,dhcpLeaseCount,l2tpSessionCount,pptpSessionCount,peerStatus] := by
    unfold layout at hg
    split at hg <;> simpa using hg
  rcases htwo with rfl | rfl <;> decide

theorem monitors_layout (w : Window) :
    monitors (layout w item) = (plan w item).filter Call.isMonitor := by
  unfold layout plan
  cases item.resource.common.isUp with
  | true =>
    simp only [if_true,monitors_append,monitors_untimed,monitors_one,monitors_map,List.filter_cons,
      List.filter_map]
    simp [Call.isMonitor,Function.comp_def]
  | false => rfl

end VpcRouters

namespace Internets

variable (ctx : Context) (api : Api) (item : Zoned Internet)

def monitored : List Gauge := [inbound,outbound]

def layout (w : Window) (item : Zoned Internet) : List Part :=
  [.untimed [info],.monitor (.internetTraffic item.zone item.resource.id w)
    [⟨inbound,ident item,"In",(·/1000)⟩,⟨outbound,ident item,"Out",(·/1000)⟩]]

theorem batch_shows : Shows api (layout ctx.window item) (batch ctx api item).value := by
  have hrows : Shows api [.untimed [info]] (rows item) :=
    .untimed (fun s hs => ⟨info,by simp,by rw [List.mem_singleton.mp hs]; rfl⟩) (rows_plain item).time_eq_none
  refine hrows.append (.one ?_)
  exact (Measures.of_answer rfl rfl fun _ => rfl).shows (Run.call_value api _) fun _ => rfl

theorem layout_separate (w : Window) : Separate monitored (layout w item) := by
  refine .of_tidy (fun q => trafficRows_tidy item ⟨q.2,Needs.read q.1⟩) fun gauges hg => ?_
  have hone : gauges = [info] := by simpa [layout] using hg
  rw [hone]
  decide

end Internets

namespace AutoBackups

def layout (_ : Zoned AutoBackup) : List Part := [.untimed gauges]

theorem batch_shows (ctx : Context) (api : Api) (item : Zoned AutoBackup) :
    Shows api (layout item) (batch ctx api item).value :=
  .untimed (batch_plain item ctx api).named (batch_plain item ctx api).time_eq_none

end AutoBackups

namespace ProxyLbs

variable (ctx : Context) (api : Api) (item : Zoned ProxyLb)

def monitored : List Gauge := [activeConnections,connectionPerSec]

/-- The connections of a load balancer that is available. -/
def layout (w : Window) (item : Zoned ProxyLb) : List Part :=
  [.untimed [up,info,bindPortInfo,serverInfo]] ++ ([.untimed [serverUp]] ++ if item.resource.isAvailable then
    [.monitor (.proxyLbConnections item.zone item.resource.id w)
      [⟨activeConnections,ident item,"ActiveConnections",id⟩,
        ⟨connectionPerSec,ident item,"ConnectionsPerSec",id⟩]]
  else [])

theorem batch_shows : Shows api (layout ctx.window item) (batch ctx api item).value := by
  have hrows : Shows api [.untimed [up,info,bindPortInfo,serverInfo]] (rows item) :=
    .of_plain (rows_tidy item) (rows_plain item)
  have hhealth : ∀ health : Option ProxyLbHealth,
      Shows api [.untimed [serverUp]] (rowsOf health (healthRows item)) :=
    fun health => .of_plain (.rowsOf (healthRows_tidy item) health) (.rowsOf (healthRows_plain item))
  refine hrows.append ?_
  unfold readings
  cases item.resource.isAvailable with
  | true =>
    refine (hhealth _).append (.one ?_)
    exact (Measures.of_answer rfl rfl fun _ => rfl).shows (Run.call_value api _) fun _ => rfl
  | false => exact (hhealth _).append .nil

theorem drawn_tidy (w : Window) (q : Point × Instant) :
    Tidy monitored [("id",item.resource.id)] (drawn (layout w item) q) := by
  unfold layout
  split
  · exact connectionRows_tidy item ⟨q.2,Needs.read q.1⟩
  · exact .nil

theorem layout_separate (w : Window) : Separate monitored (layout w item) := by
  refine .of_tidy (drawn_tidy item w) fun gauges hg => ?_
  have htwo : gauges = [up,info,bindPortInfo,serverInfo] ∨ gauges = [serverUp] := by
    unfold layout at hg
    split at hg <;> simpa using hg
  rcases htwo with rfl | rfl <;> decide

theorem monitors_layout (w : Window) :
    monitors (layout w item) = (plan w item).filter Call.isMonitor := by
  unfold layout plan
  cases item.resource.isAvailable <;> rfl

end ProxyLbs

end CloudMetrics.Collect
