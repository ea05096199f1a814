import CloudMetrics.Cloud.Client
import CloudMetrics.Proofs.SettledSamples
import Mathlib.Data.List.Nodup

/-!
# The settled point of a monitor's response

A response holds points under written instants. Which of them count is said here of the points alone,
and then shown of the samples that are read from them: a point is complete when its key is an instant
and the numbers that its monitor needs are there, and of the complete points that one is settled which
exactly one other is newer than.
-/
namespace CloudMetrics

open Cloud Time

namespace Cloud

/-- The numbers without which a point of a monitor is passed over. -/
def Call.required : Call → List String
  | .serverCpu .. | .applianceCpu .. => ["CPU-TIME"]
  | .interfaceTraffic .. | .applianceTraffic .. => ["Receive","Send"]
  | .diskActivity .. | .databaseDisk .. => ["Read","Write"]
  | .databaseUsage .. =>
    ["Total-Memory-Size","Used-Memory-Size","Total-Disk1-Size","Used-Disk1-Size"]
  | .nfsFreeDisk .. => ["Free-Disk-Size"]
  | .internetTraffic .. => ["In","Out"]
  | .proxyLbConnections .. => ["ActiveConnections","ConnectionsPerSec"]
  | _ => []

/-- The calls that are answered with points. -/
def Call.isMonitor : Call → Bool
  | .serverCpu .. | .applianceCpu .. | .interfaceTraffic .. | .applianceTraffic .. | .diskActivity ..
  | .databaseDisk .. | .databaseUsage .. | .nfsFreeDisk .. | .internetTraffic ..
  | .proxyLbConnections .. => true
  | _ => false

/-- The answer that the points of a response make, visited in the given order. -/
def Call.measured? : (c : Call) → MonitorPoints → Option c.Answer
  | .serverCpu .., ps | .applianceCpu .., ps => some (ps.samples CpuTime)
  | .interfaceTraffic .., ps | .applianceTraffic .., ps => some (ps.samples Traffic)
  | .diskActivity .., ps | .databaseDisk .., ps => some (ps.samples DiskActivity)
  | .databaseUsage .., ps => some (ps.samples DatabaseUsage)
  | .nfsFreeDisk .., ps => some (ps.samples FreeDisk)
  | .internetTraffic .., ps => some (ps.samples RouterTraffic)
  | .proxyLbConnections .., ps => some (ps.samples Connections)
  | _, _ => none

/-- A body whose points can be read is answered with what these points make. -/
theorem outcome_of_points {c : Call} (hc : c.isMonitor = true) {status : Nat} {body : List UInt8}
    {points : MonitorPoints} (hs : 200 ≤ status ∧ status < 300)
    (hb : Call.decodeBody MonitorPoints.shape body = .ok points) :
    ∃ a, c.measured? points = some a ∧ Client.outcome c (.answered status body) = .ok a := by
  have hd : ∀ (V : Type) [MonitorValue V], Call.decodeMonitor V body = .ok (points.samples V) := by
    intro V _
    rw [Call.decodeMonitor,hb]
    rfl
  have hm : ∃ a, c.measured? points = some a ∧ c.decode body = .ok a := by
    cases c with
    | serverCpu | applianceCpu => exact ⟨_,rfl,hd CpuTime⟩
    | interfaceTraffic | applianceTraffic => exact ⟨_,rfl,hd Traffic⟩
    | diskActivity | databaseDisk => exact ⟨_,rfl,hd DiskActivity⟩
    | databaseUsage => exact ⟨_,rfl,hd DatabaseUsage⟩
    | nfsFreeDisk => exact ⟨_,rfl,hd FreeDisk⟩
    | internetTraffic => exact ⟨_,rfl,hd RouterTraffic⟩
    | proxyLbConnections => exact ⟨_,rfl,hd Connections⟩
    | _ => exact absurd hc Bool.false_ne_true
  obtain ⟨a,ha,hda⟩ := hm
  refine ⟨a,ha,?_⟩
  simp only [Client.outcome,if_pos hs,hda]

end Cloud

/-- The instant under which a point stands. -/
def instant? (p : String × Point) : Option Instant := Instant.ofStrict? p.1

/-- The key is an instant, and each of the needed numbers is there and not null. -/
def isComplete (required : List String) (p : String × Point) : Bool :=
  (instant? p).isSome && required.all fun name => (p.2.number? name).isSome

def completePoints (required : List String) (points : MonitorPoints) : MonitorPoints :=
  points.filter (isComplete required)

/-- The point is newer than an instant. -/
def isNewer (t : Instant) (p : String × Point) : Bool := (instant? p).any fun u => decide (t < u)

/-- The settled one of some points, with its instant: the complete point that exactly one complete
point is newer than, and none while there are fewer than two. -/
inductive Settled (required : List String) (points : MonitorPoints) : Option (Point × Instant) → Prop
  | missing : (completePoints required points).length < 2 → Settled required points none
  | found {p : String × Point} {t : Instant} :
      p ∈ completePoints required points → instant? p = some t →
      (completePoints required points).countP (isNewer t) = 1 → Settled required points (some (p.2,t))

section
variable {α : Type}

theorem countP_lt_countP {p q : α → Bool} {l : List α} (h : ∀ x ∈ l, p x = true → q x = true) {a : α}
    (ha : a ∈ l) (hp : p a = false) (hq : q a = true) : l.countP p < l.countP q := by
  obtain ⟨before,after,rfl⟩ := List.append_of_mem ha
  have hb : before.countP p ≤ before.countP q :=
    List.countP_mono_left fun x hx => h x (List.mem_append_left _ hx)
  have hc : after.countP p ≤ after.countP q :=
    List.countP_mono_left fun x hx => h x (List.mem_append_right _ (List.mem_cons_of_mem _ hx))
  simp only [List.countP_append,List.countP_cons,hp,hq,if_true,if_neg Bool.false_ne_true]
  omega

end

section
variable {required : List String} {points : MonitorPoints}

theorem isNewer_of_instant {p : String × Point} {u : Instant} (h : instant? p = some u) (t : Instant) :
    isNewer t p = decide (t < u) := by
  rw [isNewer,h,Option.any_some]

theorem two_le_of_countP_eq_one {p : String × Point} {t : Instant}
    (hp : p ∈ completePoints required points) (ht : instant? p = some t)
    (hc : (completePoints required points).countP (isNewer t) = 1) :
    2 ≤ (completePoints required points).length := by
  have hn : isNewer t p = false := by
    rw [isNewer_of_instant ht]
    exact decide_eq_false (Instant.lt_irrefl t)
  have h := countP_lt_countP (q := fun _ => true) (fun _ _ _ => rfl) hp hn rfl
  rw [List.countP_true,hc] at h
  omega

theorem Settled.isSome_iff {o : Option (Point × Instant)} (h : Settled required points o) :
    o.isSome = true ↔ 2 ≤ (completePoints required points).length := by
  cases h with
  | missing hl =>
    constructor
    · intro hn
      exact absurd hn Bool.false_ne_true
    · intro h2
      omega
  | found hp ht hc =>
    constructor
    · intro _
      exact two_le_of_countP_eq_one hp ht hc
    · intro _
      rfl

/-- Of two points the older one has more points newer than it. -/
theorem countP_isNewer_lt {q : String × Point} {t u : Instant}
    (hq : q ∈ completePoints required points) (hu : instant? q = some u) (h : t < u) :
    (completePoints required points).countP (isNewer u) <
      (completePoints required points).countP (isNewer t) := by
  refine countP_lt_countP ?_ hq ?_ ?_
  · intro x _ hx
    obtain ⟨v,hv,hlt⟩ := (Option.any_eq_true _ _).mp hx
    rw [isNewer_of_instant hv]
    exact decide_eq_true (Instant.lt_trans h (of_decide_eq_true hlt))
  · rw [isNewer_of_instant hu]
    exact decide_eq_false (Instant.lt_irrefl u)
  · rw [isNewer_of_instant hu]
    exact decide_eq_true h

theorem Settled.unique (hd : ((completePoints required points).map instant?).Nodup)
    {o o' : Option (Point × Instant)} (h : Settled required points o) (h' : Settled required points o') :
    o = o' := by
  cases h with
  | missing hl =>
    cases h' with
    | missing _ => rfl
    | found hq hu hc =>
      have h2 := two_le_of_countP_eq_one hq hu hc
      omega
  | @found p t hp ht hc =>
    cases h' with
    | missing hl =>
      have h2 := two_le_of_countP_eq_one hp ht hc
      omega
    | @found q u hq hu hc' =>
      have htu : ¬t < u := by
        intro hlt
        have hn := countP_isNewer_lt hq hu hlt
        omega
      have hut : ¬u < t := by
        intro hlt
        have hn := countP_isNewer_lt hp ht hlt
        omega
      have he : t = u := Instant.le_antisymm (Instant.not_lt.mp hut) (Instant.not_lt.mp htu)
      have hpq : p = q := List.inj_on_of_nodup_map hd hp hq (by rw [ht,hu,he])
      rw [hpq,he]

end

/-- A number of a point, zero if it is missing or null. -/
def Cloud.Point.orZero (p : Point) (name : String) : Float := (Point.number? p name).getD 0

/-- What a value needs of a point, and how it is read from a point that has it. Each value can be measured. -/
class Needs (V : Type) [MonitorValue V] where
  required : List String
  read : Point → V
  measured : ∀ v, ∃ p, read p = v
  ofPoint_eq : ∀ p : Point, MonitorValue.ofPoint p =
    if (required.all fun name => (p.number? name).isSome) = true then some (read p) else none

instance : Needs CpuTime where
  required := ["CPU-TIME"]
  read p := ⟨Point.orZero p "CPU-TIME"⟩
  measured v := ⟨[("CPU-TIME",some v.cpuTime)],rfl⟩
  ofPoint_eq p := by
    cases h : p.number? "CPU-TIME" <;> simp [MonitorValue.ofPoint,Point.orZero,h]

instance : Needs Traffic where
  required := ["Receive","Send"]
  read p := ⟨Point.orZero p "Receive",Point.orZero p "Send"⟩
  measured v := ⟨[("Receive",some v.receive),("Send",some v.send)],rfl⟩
  ofPoint_eq p := by
    cases h : p.number? "Receive" <;> cases h' : p.number? "Send" <;>
      simp [MonitorValue.ofPoint,Point.orZero,h,h']

instance : Needs DiskActivity where
  required := ["Read","Write"]
  read p := ⟨Point.orZero p "Read",Point.orZero p "Write"⟩
  measured v := ⟨[("Read",some v.read),("Write",some v.write)],rfl⟩
  ofPoint_eq p := by
    cases h : p.number? "Read" <;> cases h' : p.number? "Write" <;>
      simp [MonitorValue.ofPoint,Point.orZero,h,h']

instance : Needs RouterTraffic where
  required := ["In","Out"]
  read p := ⟨Point.orZero p "In",Point.orZero p "Out"⟩
  measured v := ⟨[("In",some v.inbound),("Out",some v.outbound)],rfl⟩
  ofPoint_eq p := by
    cases h : p.number? "In" <;> cases h' : p.number? "Out" <;>
      simp [MonitorValue.ofPoint,Point.orZero,h,h']

/-- The backup disk, the change log and the delay are not needed. -/
instance : Needs DatabaseUsage where
  required := ["Total-Memory-Size","Used-Memory-Size","Total-Disk1-Size","Used-Disk1-Size"]
  read p :=
    ⟨Point.orZero p "Total-Memory-Size",Point.orZero p "Used-Memory-Size",
      Point.orZero p "Total-Disk1-Size",Point.orZero p "Used-Disk1-Size",
      Point.orZero p "Total-Disk2-Size",Point.orZero p "Used-Disk2-Size",
      Point.orZero p "binlogUsedSizeKiB",Point.orZero p "delayTimeSec"⟩
  measured v :=
    ⟨[("Total-Memory-Size",some v.totalMemory),("Used-Memory-Size",some v.usedMemory),
      ("Total-Disk1-Size",some v.totalSystemDisk),("Used-Disk1-Size",some v.usedSystemDisk),
      ("Total-Disk2-Size",some v.totalBackupDisk),("Used-Disk2-Size",some v.usedBackupDisk),
      ("binlogUsedSizeKiB",some v.usedBinlog),("delayTimeSec",some v.replicationDelay)],rfl⟩
  ofPoint_eq p := by
    cases h : p.number? "Total-Memory-Size" <;> cases h' : p.number? "Used-Memory-Size" <;>
      cases k : p.number? "Total-Disk1-Size" <;> cases k' : p.number? "Used-Disk1-Size" <;>
      simp [MonitorValue.ofPoint,Point.orZero,h,h',k,k']

instance : Needs FreeDisk where
  required := ["Free-Disk-Size"]
  read p := ⟨Point.orZero p "Free-Disk-Size"⟩
  measured v := ⟨[("Free-Disk-Size",some v.freeDiskSize)],rfl⟩
  ofPoint_eq p := by
    cases h : p.number? "Free-Disk-Size" <;> simp [MonitorValue.ofPoint,Point.orZero,h]

instance : Needs Connections where
  required := ["ActiveConnections","ConnectionsPerSec"]
  read p := ⟨Point.orZero p "ActiveConnections",Point.orZero p "ConnectionsPerSec"⟩
  measured v := ⟨[("ActiveConnections",some v.active),("ConnectionsPerSec",some v.perSecond)],rfl⟩
  ofPoint_eq p := by
    cases h : p.number? "ActiveConnections" <;> cases h' : p.number? "ConnectionsPerSec" <;>
      simp [MonitorValue.ofPoint,Point.orZero,h,h']

section
variable {V : Type} [MonitorValue V] [Needs V]

/-- The sample of a complete point. -/
def sampleOf (V : Type) [MonitorValue V] [Needs V] (p : String × Point) : MonitorSample V :=
  ⟨(instant? p).getD .epoch,Needs.read p.2⟩

theorem completePoint?_eq (p : String × Point) :
    completePoint? V p =
      if isComplete (Needs.required V) p = true then some (sampleOf V p) else none := by
  rw [completePoint?,Needs.ofPoint_eq,isComplete,sampleOf,instant?]
  cases Instant.ofStrict? p.1 with
  | none => rfl
  | some t => split <;> simp_all

/-- Every complete point makes one sample. -/
theorem samples_eq_map (points : MonitorPoints) :
    points.samples V = (completePoints (Needs.required V) points).map (sampleOf V) := by
  rw [completePoints,← List.filterMap_eq_map,List.filterMap_filter]
  exact List.filterMap_congr fun p _ => completePoint?_eq p

theorem instant?_of_mem {required : List String} {points : MonitorPoints} {p : String × Point}
    (h : p ∈ completePoints required points) : ∃ t, instant? p = some t :=
  Option.isSome_iff_exists.mp (Bool.and_eq_true_iff.mp (List.mem_filter.mp h).2).1

theorem instant?_eq_time {required : List String} {points : MonitorPoints} {p : String × Point}
    (h : p ∈ completePoints required points) : instant? p = some (sampleOf V p).time := by
  obtain ⟨t,ht⟩ := instant?_of_mem h
  rw [sampleOf,ht]
  rfl

/-- However the points of a response are visited, the settled sample is read from their settled
point. -/
theorem latestSettled_samples {visited points : MonitorPoints} (hv : visited.Perm points)
    (hd : ((completePoints (Needs.required V) points).map instant?).Nodup) :
    ∃ o, Settled (Needs.required V) points o ∧
      Collect.latestSettled (visited.samples V) = o.map fun q => ⟨q.2,Needs.read q.1⟩ := by
  have hc : (completePoints (Needs.required V) visited).Perm
      (completePoints (Needs.required V) points) := hv.filter _
  have hs : (visited.samples V).Perm ((completePoints (Needs.required V) points).map (sampleOf V)) := by
    rw [samples_eq_map]
    exact hc.map _
  have hl : (visited.samples V).length = (completePoints (Needs.required V) points).length := by
    rw [hs.length_eq,List.length_map]
  by_cases h : 2 ≤ (visited.samples V).length
  · have hdt : ((visited.samples V).map (·.time)).Nodup := by
      rw [(hs.map _).nodup_iff,List.map_map]
      refine List.Nodup.of_map some ?_
      rw [List.map_map]
      refine List.map_congr_left (fun p hp => ?_) ▸ hd
      exact instant?_eq_time hp
    obtain ⟨settled,hm,he,hone⟩ := Collect.latestSettled_of_two_le h hdt
    obtain ⟨p,hp,rfl⟩ := List.mem_map.mp (hs.mem_iff.mp hm)
    refine ⟨some (p.2,(sampleOf V p).time),.found hp (instant?_eq_time hp) ?_,he⟩
    rw [hs.countP_eq,List.countP_map] at hone
    rw [← hone]
    refine List.countP_congr fun q hq => ?_
    rw [isNewer_of_instant (instant?_eq_time (V := V) hq)]
    rfl
  · have h2 : (visited.samples V).length < 2 := Nat.lt_of_not_le h
    exact ⟨none,.missing (hl ▸ h2),Collect.latestSettled_of_length_lt h2⟩

end

end CloudMetrics
