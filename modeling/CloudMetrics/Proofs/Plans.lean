import CloudMetrics.Proofs.Cycle
import Mathlib.Data.List.Induction

/-!
# Plans of calls

What is asked of one listed resource, for each kind, as a function of its record: nothing or little
while it is not up, and its monitors otherwise. Each kind's batch makes exactly the calls of its plan,
so each kind is a cycle.
-/
namespace CloudMetrics.Collect

open Cloud Metrics Time

namespace Servers

variable (ctx : Context) (api : Api) (item : Zoned Server)

/-- Nothing unless the server is up; else its processor, each interface and each disk. -/
def plan (w : Window) (item : Zoned Server) : List Call :=
  if item.resource.isUp then
    .serverCpu item.zone item.resource.id w
      :: item.resource.interfaces.map (fun nic => .interfaceTraffic item.zone nic.id w)
      ++ item.resource.disks.map (fun disk => .diskActivity item.zone disk.id w)
  else []

theorem batch_enquires :
    (batch ctx api item).Enquires ctx.collector api (plan ctx.window item) := by
  unfold batch plan
  split
  · refine Run.Enquires.bind_pure _ ?_
    refine Run.Enquires.bind_one (Context.settled_enquires (ctx.fetch_enquires ..)) ?_
    intro cpu
    refine Run.Enquires.bind (Run.Enquires.sequence_one _ _ _ fun nic => ?_) fun nics => ?_
    · exact Context.settled_enquires (ctx.fetch_enquires ..)
    refine Run.Enquires.bind_pure _ (Run.Enquires.sequence_one _ _ _ fun disk => ?_)
    exact Context.settled_enquires (ctx.fetch_enquires ..)
  · exact .pure _

theorem batch_ne_nil : (batch ctx api item).value ≠ [] := by
  unfold batch
  split <;> simp [rows]

theorem isListing_plan (w : Window) : ∀ c ∈ plan w item, c.isListing = false := by
  unfold plan
  split
  · simp only [List.mem_append,List.mem_cons,List.mem_map]
    rintro c ((rfl | ⟨nic,-,rfl⟩) | ⟨disk,-,rfl⟩) <;> rfl
  · exact fun c hc => absurd hc List.not_mem_nil

def cycle : Cycle ctx api Server where
  call := .servers
  answer z := api (.servers z)
  errorOf?_answer _ := rfl
  zones := ctx.zones
  plan := plan ctx.window
  batch := batch ctx api
  isListing_call _ := rfl
  isListing_plan item := isListing_plan item ctx.window
  batch_enquires := batch_enquires ctx api
  batch_ne_nil := batch_ne_nil ctx api

end Servers

namespace Databases

variable (ctx : Context) (api : Api) (item : Zoned Database)

/-- Nothing unless the database is up; else its processor, first interface, disk and usage. -/
def plan (w : Window) (item : Zoned Database) : List Call :=
  let id := item.resource.common.id
  if item.resource.common.isUp then
    [.applianceCpu item.zone id w,.applianceTraffic item.zone id 0 w,.databaseDisk item.zone id w,
      .databaseUsage item.zone id w]
  else []

theorem batch_enquires :
    (batch ctx api item).Enquires ctx.collector api (plan ctx.window item) := by
  unfold batch plan
  split
  · refine Run.Enquires.bind_pure _ ?_
    refine Run.Enquires.bind_one (Context.settled_enquires (ctx.fetch_enquires ..)) ?_
    intro cpu
    refine Run.Enquires.bind_one (Context.settled_enquires (ctx.fetch_enquires ..)) ?_
    intro nic
    refine Run.Enquires.bind_one (Context.settled_enquires (ctx.fetch_enquires ..)) ?_
    intro disk
    exact Run.Enquires.bind_pure _ (Context.settled_enquires (ctx.fetch_enquires ..))
  · exact .pure _

theorem batch_ne_nil : (batch ctx api item).value ≠ [] := by
  unfold batch
  split <;> simp [rows]

theorem isListing_plan (w : Window) : ∀ c ∈ plan w item, c.isListing = false := by
  unfold plan
  split
  · simp [Call.isListing]
  · exact fun c hc => absurd hc List.not_mem_nil

def cycle : Cycle ctx api Database where
  call := .databases
  answer z := api (.databases z)
  errorOf?_answer _ := rfl
  zones := ctx.zones
  plan := plan ctx.window
  batch := batch ctx api
  isListing_call _ := rfl
  isListing_plan item := isListing_plan item ctx.window
  batch_enquires := batch_enquires ctx api
  batch_ne_nil := batch_ne_nil ctx api

end Databases

namespace FileServers

variable (ctx : Context) (api : Api) (item : Zoned Nfs)

/-- Nothing unless the file server is up; else its free disk space and first interface. -/
def plan (w : Window) (item : Zoned Nfs) : List Call :=
  let id := item.resource.common.id
  if item.resource.common.isUp then
    [.nfsFreeDisk item.zone id w,.applianceTraffic item.zone id 0 w]
  else []

theorem batch_enquires :
    (batch ctx api item).Enquires ctx.collector api (plan ctx.window item) := by
  unfold batch plan
  split
  · refine Run.Enquires.bind_pure _ ?_
    refine Run.Enquires.bind_one (Context.settled_enquires (ctx.fetch_enquires ..)) ?_
    intro free
    exact Run.Enquires.bind_pure _ (Context.settled_enquires (ctx.fetch_enquires ..))
  · exact .pure _

theorem batch_ne_nil : (batch ctx api item).value ≠ [] := by
  unfold batch
  split <;> simp [rows]

theorem isListing_plan (w : Window) : ∀ c ∈ plan w item, c.isListing = false := by
  unfold plan
  split
  · simp [Call.isListing]
  · exact fun c hc => absurd hc List.not_mem_nil

def cycle : Cycle ctx api Nfs where
  call := .nfsAppliances
  answer z := api (.nfsAppliances z)
  errorOf?_answer _ := rfl
  zones := ctx.zones
  plan := plan ctx.window
  batch := batch ctx api
  isListing_call _ := rfl
  isListing_plan item := isListing_plan item ctx.window
  batch_enquires := batch_enquires ctx api
  batch_ne_nil := batch_ne_nil ctx api

end FileServers

namespace LoadBalancers

variable (ctx : Context) (api : Api) (item : Zoned LoadBalancer)

/-- The status always, and the first interface while the load balancer is up. -/
def plan (w : Window) (item : Zoned LoadBalancer) : List Call :=
  let id := item.resource.common.id
  .loadBalancerStatus item.zone id
    :: if item.resource.common.isUp then [.applianceTraffic item.zone id 0 w] else []

theorem batch_enquires :
    (batch ctx api item).Enquires ctx.collector api (plan ctx.window item) := by
  refine Run.Enquires.bind_pure _ ?_
  unfold readings plan
  cases item.resource.common.isUp with
  | true =>
    refine Run.Enquires.bind_one (ctx.fetch_enquires ..) fun status => ?_
    exact Run.Enquires.bind_pure _ (Context.settled_enquires (ctx.fetch_enquires ..))
  | false =>
    refine Run.Enquires.bind_one (ctx.fetch_enquires ..) fun status => ?_
    exact Run.Enquires.bind_pure _ (.pure _)

theorem batch_ne_nil : (batch ctx api item).value ≠ [] := by
  simp [batch,rows]

theorem isListing_plan (w : Window) : ∀ c ∈ plan w item, c.isListing = false := by
  unfold plan
  split <;> simp [Call.isListing]

def cycle : Cycle ctx api LoadBalancer where
  call := .loadBalancers
  answer z := api (.loadBalancers z)
  errorOf?_answer _ := rfl
  zones := ctx.zones
  plan := plan ctx.window
  batch := batch ctx api
  isListing_call _ := rfl
  isListing_plan item := isListing_plan item ctx.window
  batch_enquires := batch_enquires ctx api
  batch_ne_nil := batch_ne_nil ctx api

end LoadBalancers

namespace VpcRouters

variable (ctx : Context) (api : Api) (item : Zoned VpcRouter)

/-- The places of the full interface list at which an interface has a switch. -/
def switchedPlaces (a : Appliance) : List Nat :=
  (List.range a.interfaces.length).filter fun i => (a.interfaces[i]?.bind (·.switch)).isSome

/-- Numbering before leaving out gives the places in the full list. -/
theorem attached_eq_switchedPlaces (a : Appliance) : attached a = switchedPlaces a := by
  unfold attached switchedPlaces
  induction a.interfaces using List.reverseRecOn with
  | nil => rfl
  | append_singleton nics nic ih =>
    rw [List.mapIdx_concat,List.filterMap_append,ih,List.length_append,List.length_singleton,
      List.range_succ,List.filter_append]
    congr 1
    · refine List.filter_congr fun i hi => ?_
      rw [List.getElem?_append_left (List.mem_range.mp hi)]
    · rw [List.filter_singleton,List.getElem?_concat_length,Option.bind_some]
      cases nic.switch <;> rfl

/-- The status always; while the router is up, its processor and each interface that has a switch. -/
def plan (w : Window) (item : Zoned VpcRouter) : List Call :=
  let id := item.resource.common.id
  .vpcRouterStatus item.zone id
    :: if item.resource.common.isUp then
      .applianceCpu item.zone id w
        :: (switchedPlaces item.resource.common).map fun i => .applianceTraffic item.zone id i w
    else []

theorem batch_enquires :
    (batch ctx api item).Enquires ctx.collector api (plan ctx.window item) := by
  refine Run.Enquires.bind_pure _ ?_
  unfold readings plan
  dsimp only
  rw [← attached_eq_switchedPlaces]
  cases item.resource.common.isUp with
  | true =>
    refine Run.Enquires.bind_one (ctx.fetch_enquires ..) fun status => ?_
    refine Run.Enquires.bind_one (Context.settled_enquires (ctx.fetch_enquires ..)) ?_
    intro cpu
    refine Run.Enquires.bind_pure _ (Run.Enquires.sequence_one _ _ _ fun i => ?_)
    exact Run.Enquires.bind_pure _ (Context.settled_enquires (ctx.fetch_enquires ..))
  | false =>
    refine Run.Enquires.bind_one (ctx.fetch_enquires ..) fun status => ?_
    exact .pure _

theorem batch_ne_nil : (batch ctx api item).value ≠ [] := by
  simp [batch,rows]

theorem isListing_plan (w : Window) : ∀ c ∈ plan w item, c.isListing = false := by
  unfold plan
  split
  · simp only [List.mem_cons,List.mem_map]
    rintro c (rfl | rfl | ⟨i,-,rfl⟩) <;> rfl
  · simp [Call.isListing]

def cycle : Cycle ctx api VpcRouter where
  call := .vpcRouters
  answer z := api (.vpcRouters z)
  errorOf?_answer _ := rfl
  zones := ctx.zones
  plan := plan ctx.window
  batch := batch ctx api
  isListing_call _ := rfl
  isListing_plan item := isListing_plan item ctx.window
  batch_enquires := batch_enquires ctx api
  batch_ne_nil := batch_ne_nil ctx api

end VpcRouters

namespace Internets

variable (ctx : Context) (api : Api) (item : Zoned Internet)

/-- The traffic. -/
def plan (w : Window) (item : Zoned Internet) : List Call :=
  [.internetTraffic item.zone item.resource.id w]

theorem batch_enquires :
    (batch ctx api item).Enquires ctx.collector api (plan ctx.window item) :=
  Run.Enquires.bind_pure _ (Context.settled_enquires (ctx.fetch_enquires ..))

theorem batch_ne_nil : (batch ctx api item).value ≠ [] := by
  simp [batch,rows]

def cycle : Cycle ctx api Internet where
  call := .internets
  answer z := api (.internets z)
  errorOf?_answer _ := rfl
  zones := ctx.zones
  plan := plan ctx.window
  batch := batch ctx api
  isListing_call _ := rfl
  isListing_plan item c hc := by rw [List.mem_singleton.mp hc]; rfl
  batch_enquires := batch_enquires ctx api
  batch_ne_nil := batch_ne_nil ctx api

end Internets

namespace AutoBackups

variable (ctx : Context) (api : Api) (item : Zoned AutoBackup)

/-- The archives that the schedule has left. -/
def plan (item : Zoned AutoBackup) : List Call := [.archives item.zone item.resource.id]

theorem batch_enquires : (batch ctx api item).Enquires ctx.collector api (plan item) :=
  Run.Enquires.bind_pure _ (ctx.fetch_enquires ..)

theorem batch_ne_nil : (batch ctx api item).value ≠ [] := by
  simp [batch,rows]

def cycle : Cycle ctx api AutoBackup where
  call := .autoBackups
  answer z := api (.autoBackups z)
  errorOf?_answer _ := rfl
  zones := ctx.zones
  plan := plan
  batch := batch ctx api
  isListing_call _ := rfl
  isListing_plan item c hc := by rw [List.mem_singleton.mp hc]; rfl
  batch_enquires := batch_enquires ctx api
  batch_ne_nil := batch_ne_nil ctx api

end AutoBackups

namespace ProxyLbs

variable (ctx : Context) (api : Api) (item : Zoned ProxyLb)

/-- The health always, and the connections while the load balancer is available. -/
def plan (w : Window) (item : Zoned ProxyLb) : List Call :=
  .proxyLbHealth item.zone item.resource.id
    :: if item.resource.isAvailable then [.proxyLbConnections item.zone item.resource.id w] else []

theorem batch_enquires :
    (batch ctx api item).Enquires ctx.collector api (plan ctx.window item) := by
  refine Run.Enquires.bind_pure _ ?_
  unfold readings plan
  cases item.resource.isAvailable with
  | true =>
    refine Run.Enquires.bind_one (ctx.fetch_enquires ..) fun health => ?_
    exact Run.Enquires.bind_pure _ (Context.settled_enquires (ctx.fetch_enquires ..))
  | false =>
    refine Run.Enquires.bind_one (ctx.fetch_enquires ..) fun health => ?_
    exact Run.Enquires.bind_pure _ (.pure _)

theorem batch_ne_nil : (batch ctx api item).value ≠ [] := by
  simp [batch,rows]

theorem isListing_plan (w : Window) : ∀ c ∈ plan w item, c.isListing = false := by
  unfold plan
  split <;> simp [Call.isListing]

/-- The zones of the context do not matter: there is one listing, through the global zone. -/
def cycle : Cycle ctx api ProxyLb where
  call := .proxyLbs
  answer z := api (.proxyLbs z)
  errorOf?_answer _ := rfl
  zones := [globalZone]
  plan := plan ctx.window
  batch := batch ctx api
  isListing_call _ := rfl
  isListing_plan item := isListing_plan item ctx.window
  batch_enquires := batch_enquires ctx api
  batch_ne_nil := batch_ne_nil ctx api

end ProxyLbs

namespace Kind

/-- The kinds that list resources. -/
def lists : Kind → Bool
  | .bill | .coupon => false
  | _ => true

/-- The cycle of a kind that lists resources. -/
def cycle? (s : Setting) : Kind → Option ((α : Type) × Cycle s.context s.api α)
  | .server => some ⟨_,Servers.cycle s.context s.api⟩
  | .database => some ⟨_,Databases.cycle s.context s.api⟩
  | .loadBalancer => some ⟨_,LoadBalancers.cycle s.context s.api⟩
  | .vpcRouter => some ⟨_,VpcRouters.cycle s.context s.api⟩
  | .nfs => some ⟨_,FileServers.cycle s.context s.api⟩
  | .internet => some ⟨_,Internets.cycle s.context s.api⟩
  | .autoBackup => some ⟨_,AutoBackups.cycle s.context s.api⟩
  | .proxyLb => some ⟨_,ProxyLbs.cycle s.context s.api⟩
  | .bill | .coupon => none

variable {k : Kind} {s : Setting}

theorem exists_cycle (hk : k.lists = true) (s : Setting) : ∃ c, k.cycle? s = some c := by
  cases k with
  | bill | coupon => exact absurd hk Bool.false_ne_true
  | _ => exact ⟨_,rfl⟩

/-- A run of a kind that lists resources is a run of its cycle. -/
theorem collect_journal {c : (α : Type) × Cycle s.context s.api α} (h : k.cycle? s = some c)
    (schedule : Schedule) (caches : Caches) :
    (k.collect s schedule caches).journal = (c.2.run schedule).journal := by
  cases k <;> cases h <;> exact Journal.append_empty _

theorem bill_journal : (Kind.bill.collect s schedule caches).journal =
    (Bills.collect s.context s.account s.now s.api caches.bills).journal :=
  Journal.append_empty _

theorem coupon_journal : (Kind.coupon.collect s schedule caches).journal =
    (Coupons.collect s.context s.account s.now s.api caches.coupons).journal :=
  Journal.append_empty _

end Kind

end CloudMetrics.Collect
