import CloudMetrics.Proofs.Plans

/-!
# Requests follow the listings

Which calls a run makes is settled by the answers to its listings. One listing is made for each zone of
the list; if one fails, that is all, and no batch is handed over. Otherwise exactly the plans of the
listed resources are carried out, each in the zone of its resource. What the other calls are answered
with, and the order of completion, have no part in it.
-/
namespace CloudMetrics.Collect

open Cloud Metrics Time

/-- What a plan asks of the resources that the zones answer with. -/
def inquiries {α : Type} (zones : List String) (answer : String → Except ApiError (List α))
    (plan : Zoned α → List Call) : List Call :=
  zones.flatMap fun z => ((answer z).toOption.getD []).flatMap fun r => plan ⟨z,r⟩

theorem inquiries_congr {α : Type} {zones : List String}
    {answer answer' : String → Except ApiError (List α)}
    (h : ∀ z ∈ zones, answer z = answer' z) (plan : Zoned α → List Call) :
    inquiries zones answer plan = inquiries zones answer' plan := by
  refine List.flatMap_congr fun z hz => ?_
  rw [h z hz]

theorem Listing.flatMap_resources {α : Type} {api : Api} (l : Listing api α) (zones : List String)
    (plan : Zoned α → List Call) :
    (l.resources zones).flatMap plan = inquiries zones l.answer plan := by
  rw [resources,List.flatMap_assoc,inquiries]
  refine List.flatMap_congr fun z _ => ?_
  rw [List.flatMap_map]

theorem Listing.isComplete_eq {α : Type} {api : Api} (l : Listing api α) (zones : List String) :
    l.isComplete zones = !(zones.map l.call).any api.fails := by
  rw [isComplete,List.any_map,List.not_any_eq_all_not]
  rfl

namespace Kind

/-- The listings that a kind makes: one for each zone, or a single one through the global zone. -/
def listings (zones : List String) : Kind → List Call
  | .server => zones.map .servers
  | .database => zones.map .databases
  | .loadBalancer => zones.map .loadBalancers
  | .vpcRouter => zones.map .vpcRouters
  | .nfs => zones.map .nfsAppliances
  | .internet => zones.map .internets
  | .autoBackup => zones.map .autoBackups
  | .proxyLb => [.proxyLbs globalZone]
  | .bill | .coupon => []

/-- What is asked of the listed resources. -/
def inquiries (s : Setting) : Kind → List Call
  | .server =>
    Collect.inquiries s.context.zones (fun z => s.api (.servers z)) (Servers.plan s.context.window)
  | .database =>
    Collect.inquiries s.context.zones (fun z => s.api (.databases z)) (Databases.plan s.context.window)
  | .loadBalancer =>
    Collect.inquiries s.context.zones (fun z => s.api (.loadBalancers z))
      (LoadBalancers.plan s.context.window)
  | .vpcRouter =>
    Collect.inquiries s.context.zones (fun z => s.api (.vpcRouters z)) (VpcRouters.plan s.context.window)
  | .nfs =>
    Collect.inquiries s.context.zones (fun z => s.api (.nfsAppliances z))
      (FileServers.plan s.context.window)
  | .internet =>
    Collect.inquiries s.context.zones (fun z => s.api (.internets z)) (Internets.plan s.context.window)
  | .autoBackup => Collect.inquiries s.context.zones (fun z => s.api (.autoBackups z)) AutoBackups.plan
  | .proxyLb =>
    Collect.inquiries [globalZone] (fun z => s.api (.proxyLbs z)) (ProxyLbs.plan s.context.window)
  | .bill | .coupon => []

variable {k : Kind} {s : Setting}

theorem listings_eq {c : (α : Type) × Cycle s.context s.api α} (h : k.cycle? s = some c) :
    k.listings s.context.zones = c.2.zones.map c.2.call := by
  cases k <;> cases h <;> rfl

theorem inquiries_eq {c : (α : Type) × Cycle s.context s.api α} (h : k.cycle? s = some c) :
    k.inquiries s = c.2.listed.flatMap c.2.plan := by
  rw [Cycle.listed,Listing.flatMap_resources]
  cases k <;> cases h <;> rfl

/-- Only the answers to the listings have a part in what is asked. -/
theorem inquiries_of_agree {api : Api} (k : Kind)
    (h : ∀ c ∈ k.listings s.context.zones, api c = s.api c) :
    k.inquiries { s with api } = k.inquiries s := by
  cases k with
  | proxyLb =>
    refine inquiries_congr (fun z hz => ?_) _
    rw [List.mem_singleton.mp hz]
    exact h _ (List.mem_singleton.mpr rfl)
  | bill | coupon => rfl
  | _ => exact inquiries_congr (fun z hz => h _ (List.mem_map_of_mem hz)) _

/-- The calls of a run, up to order. -/
def requests (k : Kind) (s : Setting) : List Call :=
  k.listings s.context.zones
    ++ if (k.listings s.context.zones).any s.api.fails then [] else k.inquiries s

theorem requests_of_agree {api : Api} (k : Kind)
    (h : ∀ c ∈ k.listings s.context.zones, api c = s.api c) :
    k.requests { s with api } = k.requests s := by
  have hf : (k.listings s.context.zones).any api.fails =
      (k.listings s.context.zones).any s.api.fails := by
    rw [Bool.eq_iff_iff,List.any_eq_true,List.any_eq_true]
    refine exists_congr fun c => and_congr_right fun hc => ?_
    rw [Api.fails,Api.fails,Api.error?,Api.error?,h c hc]
  rw [requests,requests,inquiries_of_agree k h]
  dsimp only
  rw [hf]

theorem collect_calls_perm (hk : k.lists = true) (s : Setting) (schedule : Schedule) (caches : Caches) :
    (k.collect s schedule caches).journal.calls.Perm (k.requests s) := by
  obtain ⟨c,hc⟩ := exists_cycle hk s
  rw [collect_journal hc,requests,listings_eq hc,inquiries_eq hc]
  have he := c.2.isComplete_eq c.2.zones
  cases h : c.2.isComplete c.2.zones with
  | true =>
    rw [h] at he
    rw [if_neg (by simpa using he.symm)]
    exact c.2.calls_perm schedule h
  | false =>
    rw [h] at he
    rw [if_pos (by simpa using he.symm),List.append_nil]
    exact .of_eq (c.2.run_of_not_isComplete schedule h).1

theorem collect_batches_of_failed (hk : k.lists = true) (schedule : Schedule) (caches : Caches)
    (hf : (k.listings s.context.zones).any s.api.fails = true) :
    (k.collect s schedule caches).journal.batches = [] := by
  obtain ⟨c,hc⟩ := exists_cycle hk s
  have he := c.2.isComplete_eq c.2.zones
  rw [← listings_eq hc,hf] at he
  rw [collect_journal hc]
  exact (c.2.run_of_not_isComplete schedule he).2.batches

end Kind

/-- A run of a listing kind makes one listing for each zone and, unless one of them fails, the calls that
its plan has for each listed resource, and no others; after a failed listing it hands over no batch. So
two clouds that answer the listings alike are asked the same. -/
theorem requests_follow_listings {k : Kind} (hk : k.lists = true) (s : Setting) (schedule : Schedule)
    (caches : Caches) :
    let j := (k.collect s schedule caches).journal
    let failed := (k.listings s.context.zones).any s.api.fails
    j.calls.Perm (k.listings s.context.zones ++ if failed then [] else k.inquiries s) ∧
    (failed = true → j.batches = []) ∧
    ∀ api : Api, (∀ c ∈ k.listings s.context.zones, api c = s.api c) → ∀ schedule' caches',
      (k.collect { s with api } schedule' caches').journal.calls.Perm j.calls := by
  intro j failed
  have hp := k.collect_calls_perm hk s schedule caches
  refine ⟨hp,k.collect_batches_of_failed hk schedule caches,?_⟩
  intro api ha schedule' caches'
  have hq := k.collect_calls_perm hk { s with api } schedule' caches'
  rw [k.requests_of_agree ha] at hq
  exact hq.trans hp.symm

/-- A router that is up and has a switch at its second interface only, and in other zones one that is
not up. Nothing but the listings is answered. -/
def twoRouters : Api
  | .vpcRouters zone =>
    .ok [if zone = "tk1a" then
        { common := { id := "1", state := { status := "up" }, interfaces := [{},{ switch := some {} }] } }
      else { common := { id := "2" } }]
  | c => .error (.transport c.path)

/-- The same routers where all else is answered with status 503. -/
def twoRoutersFailing : Api
  | .vpcRouters zone => twoRouters (.vpcRouters zone)
  | c => .error (.status c.path 503 "")

/-- The same routers where one zone is not listed. -/
def oneZoneFailing : Api
  | .vpcRouters zone =>
    if zone = "tk1a" then twoRouters (.vpcRouters zone) else .error (.transport "appliance")
  | c => .error (.transport c.path)

def twoZones (api : Api) : Setting :=
  { context := ⟨"vpc_router",["tk1a","is1b"],default,"exporter"⟩, account := "1", now := .epoch, api }

/-- The calls for the two routers, whatever they are answered with; none of them after a failed listing. -/
theorem requests_follow_listings_of_two_routers :
    Kind.vpcRouter.lists = true ∧
    (Kind.vpcRouter.collect (twoZones twoRouters) {} {}).journal.calls.Perm
      [.vpcRouters "tk1a",.vpcRouters "is1b",.vpcRouterStatus "tk1a" "1",.applianceCpu "tk1a" "1" default,
        .applianceTraffic "tk1a" "1" 1 default,.vpcRouterStatus "is1b" "2"] ∧
    (Kind.vpcRouter.collect (twoZones twoRoutersFailing) {} {}).journal.calls.Perm
      (Kind.vpcRouter.collect (twoZones twoRouters) {} {}).journal.calls ∧
    (Kind.vpcRouter.collect (twoZones oneZoneFailing) {} {}).journal.calls.Perm
      [.vpcRouters "tk1a",.vpcRouters "is1b"] ∧
    (Kind.vpcRouter.collect (twoZones oneZoneFailing) {} {}).journal.batches = [] := by
  have h := requests_follow_listings (k := .vpcRouter) rfl (twoZones twoRouters) {} {}
  have hf := requests_follow_listings (k := .vpcRouter) rfl (twoZones oneZoneFailing) {} {}
  have ha : ∀ c ∈ Kind.vpcRouter.listings ["tk1a","is1b"], twoRoutersFailing c = twoRouters c := by
    intro c hc
    obtain ⟨zone,-,rfl⟩ := List.mem_map.mp hc
    rfl
  exact ⟨rfl,h.1,h.2.2 twoRoutersFailing ha {} {},hf.1,hf.2.1 rfl⟩

end CloudMetrics.Collect
