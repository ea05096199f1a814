import CloudMetrics.Proofs.SeriesJoins

/-!
# The interfaces of a router keep their slots

An interface is known by its place in the full list. The places of the attached ones are what is asked for,
and the answer about a place is shown under it and with the settings of the slot of that place. Interfaces
without a switch, slots without settings and answers without a settled sample leave all other places as they
are.
-/
namespace CloudMetrics.Collect.VpcRouters

open Cloud Metrics Time

/-- At that place of the full list there is an interface with a switch. -/
def IsAttached (a : Appliance) (i : Nat) : Prop := ∃ nic, a.interfaces[i]? = some nic ∧ nic.switch.isSome = true

theorem mem_switchedPlaces {a : Appliance} {i : Nat} : i ∈ switchedPlaces a ↔ IsAttached a i := by
  simp only [switchedPlaces,IsAttached,List.mem_filter,List.mem_range]
  constructor
  · rintro ⟨-,h⟩
    cases hn : a.interfaces[i]? with
    | none => simp [hn] at h
    | some nic => exact ⟨nic,rfl,by simpa [hn] using h⟩
  · rintro ⟨nic,hn,h⟩
    exact ⟨(List.getElem?_eq_some_iff.mp hn).1,by rw [hn]; exact h⟩

variable (item : Zoned VpcRouter)

theorem mem_plan {w w' : Window} {zone id : String} {i : Nat} :
    Call.applianceTraffic zone id i w' ∈ plan w item ↔
      (zone = item.zone ∧ id = item.resource.common.id ∧ w' = w) ∧
        item.resource.common.isUp = true ∧ IsAttached item.resource.common i := by
  unfold plan
  cases item.resource.common.isUp with
  | false => simp
  | true =>
    simp only [List.mem_cons,reduceCtorEq,false_or,List.mem_map,if_true,true_and,← mem_switchedPlaces]
    constructor
    · rintro ⟨j,hj,he⟩
      obtain ⟨rfl,rfl,rfl,rfl⟩ := Call.applianceTraffic.inj he
      exact ⟨⟨rfl,rfl,rfl⟩,hj⟩
    · rintro ⟨⟨rfl,rfl,rfl⟩,hi⟩
      exact ⟨i,hi,rfl⟩

theorem nodup_plan (w : Window) : (plan w item).Nodup := by
  unfold plan
  cases item.resource.common.isUp with
  | false => simp
  | true =>
    have hplaces : (switchedPlaces item.resource.common).Nodup :=
      (pairwise_switchedPlaces item.resource.common).imp Nat.ne_of_lt
    have hinj : Function.Injective fun i => Call.applianceTraffic item.zone item.resource.common.id i w := by
      intro i j he
      exact (Call.applianceTraffic.inj he).2.2.1
    simp only [if_true,List.nodup_cons,List.mem_cons,reduceCtorEq,false_or,List.mem_map,and_false,exists_false,
      not_false_eq_true,true_and]
    exact hplaces.map hinj

/-- The settled samples, each with the place that it was asked for. -/
def settledAt (nics : List (Nat × Option (MonitorSample Traffic))) : List (Nat × MonitorSample Traffic) :=
  nics.filterMap fun p => p.2.map (p.1,·)

theorem mem_settledAt {nics : List (Nat × Option (MonitorSample Traffic))} {i : Nat} {m : MonitorSample Traffic} :
    (i,m) ∈ settledAt nics ↔ (i,some m) ∈ nics := by
  rw [settledAt,List.mem_filterMap]
  constructor
  · rintro ⟨⟨j,o⟩,hm,h⟩
    obtain ⟨m',rfl,he⟩ := Option.map_eq_some_iff.mp h
    obtain ⟨rfl,rfl⟩ := Prod.mk.inj he
    exact hm
  · exact fun h => ⟨_,h,rfl⟩

theorem settledAt_places (nics : List (Nat × Option (MonitorSample Traffic))) :
    ((settledAt nics).map (·.1)).Sublist (nics.map (·.1)) := by
  induction nics with
  | nil => exact List.Sublist.refl _
  | cons p nics ih =>
    obtain ⟨i,_ | m⟩ := p
    · exact ih.cons i
    · exact ih.cons_cons i

theorem flatMap_settledAt {f : Nat → MonitorSample Traffic → Batch}
    (nics : List (Nat × Option (MonitorSample Traffic))) :
    (nics.flatMap fun p => rowsOf p.2 (f p.1)) = (settledAt nics).flatMap fun p => f p.1 p.2 := by
  induction nics with
  | nil => rfl
  | cons p nics ih =>
    obtain ⟨i,_ | m⟩ := p
    · exact ih
    · exact congrArg (f i m ++ ·) ih

/-- The virtual address, the first address and the mask that the settings have for a place. -/
def slotTexts (r : VpcRouter) (i : Nat) : List String :=
  match r.settings.router.interfaces[i]? with
  | some (some slot) => [slot.virtualIpAddress,slot.ipAddress.head?.getD "",slot.networkMaskLength]
  | _ => ["","",""]

/-- The bits that an interface receives and sends, under its place. -/
def shownTraffic (i : Nat) (m : MonitorSample Traffic) : Batch :=
  let labels := [item.resource.common.id,item.resource.common.name,item.zone,toString i] ++ slotTexts item.resource i
  [(receive.sample (m.value.receive*8) labels).stamped m.time,(send.sample (m.value.send*8) labels).stamped m.time]

theorem slotTexts_eq (r : VpcRouter) (i : Nat) : slotTexts r i =
    [slotVip (slot? r i),slotAddress (slot? r i) 0,slotMask (slot? r i)] := by
  unfold slotTexts slot?
  rcases r.settings.router.interfaces[i]? with _ | _ | slot
  · rfl
  · rfl
  · simp only [List.head?_eq_getElem?]
    rfl

theorem trafficRows_eq (i : Nat) (m : MonitorSample Traffic) : trafficRows item i m = shownTraffic item i m := by
  unfold shownTraffic
  rw [slotTexts_eq]
  rfl

variable (ctx : Context) (api : Api)

/-- The points that are sent for a place have a settled sample. -/
def IsSettledAt (i : Nat) (m : MonitorSample Traffic) : Prop :=
  ∃ points : List (MonitorSample Traffic),
    api (.applianceTraffic item.zone item.resource.common.id i ctx.window) = .ok points ∧
      latestSettled points = some m

theorem isSettledAt_iff {i : Nat} {m : MonitorSample Traffic} : IsSettledAt item ctx api i m ↔
    (api (.applianceTraffic item.zone item.resource.common.id i ctx.window)).toOption.bind latestSettled =
      some m := by
  unfold IsSettledAt
  cases api (.applianceTraffic item.zone item.resource.common.id i ctx.window) with
  | error e => simp [Except.toOption]
  | ok points => simp [Except.toOption]

theorem mem_readings_nics {i : Nat} {m : MonitorSample Traffic} :
    (i,some m) ∈ (readings ctx api item).value.nics ↔
      (item.resource.common.isUp = true ∧ IsAttached item.resource.common i) ∧ IsSettledAt item ctx api i m := by
  rw [readings_nics,isSettledAt_iff,← mem_switchedPlaces]
  cases item.resource.common.isUp with
  | false => simp
  | true =>
    simp only [if_true,List.mem_map,true_and]
    constructor
    · rintro ⟨j,hj,he⟩
      obtain ⟨rfl,hm⟩ := Prod.mk.inj he
      exact ⟨hj,hm⟩
    · rintro ⟨hi,hm⟩
      exact ⟨i,hi,by rw [hm]⟩

theorem samplesOf_batch_eq : samplesOf [receive,send] (batch ctx api item).value =
    (settledAt (readings ctx api item).value.nics).flatMap fun p => shownTraffic item p.1 p.2 := by
  have hb : (batch ctx api item).value = rows item ++ readingRows item (readings ctx api item).value := rfl
  have hstatus := Tidy.rowsOf (statusRows_tidy item) (readings ctx api item).value.status
  have hcpu := Tidy.rowsOf (cpuRows_tidy item) (readings ctx api item).value.cpu
  have htraffic : ∀ p : Nat × Option (MonitorSample Traffic),
      samplesOf [receive,send] (rowsOf p.2 (trafficRows item p.1)) = rowsOf p.2 (shownTraffic item p.1) := by
    intro p
    rw [(Tidy.rowsOf (trafficRows_tidy item p.1) p.2).samplesOf_eq_self (List.Subset.refl _)]
    exact congrArg (rowsOf p.2) (funext (trafficRows_eq item p.1))
  rw [hb,samplesOf_append,(rows_tidy item).samplesOf_eq_nil (by decide),readingRows,samplesOf_append,
    samplesOf_append,hstatus.samplesOf_eq_nil (by decide),hcpu.samplesOf_eq_nil (by decide),samplesOf_flatMap]
  simp only [htraffic,List.nil_append]
  exact flatMap_settledAt _

/-- The monitor of an interface is asked for under the place of the interface in the full list, once for each
interface with a switch, while the router is up. Each place whose answer has a settled sample is shown, in
ascending order, with the settings of its slot and with the sample of its own answer. -/
theorem interfaces_keep_their_slots :
    (∀ zone id i w, Call.applianceTraffic zone id i w ∈ (batch ctx api item).journal.calls ↔
      (zone = item.zone ∧ id = item.resource.common.id ∧ w = ctx.window) ∧
        item.resource.common.isUp = true ∧ IsAttached item.resource.common i) ∧
    (batch ctx api item).journal.calls.Nodup ∧
    ∃ shown : List (Nat × MonitorSample Traffic),
      (shown.map (·.1)).Pairwise (· < ·) ∧
      (∀ i m, (i,m) ∈ shown ↔
        (item.resource.common.isUp = true ∧ IsAttached item.resource.common i) ∧ IsSettledAt item ctx api i m) ∧
      samplesOf [receive,send] (batch ctx api item).value = shown.flatMap fun p => shownTraffic item p.1 p.2 := by
  have hcalls := (batch_enquires ctx api item).calls_eq
  refine ⟨?asked,?once,settledAt (readings ctx api item).value.nics,?ascending,?settled,?shown⟩
  case asked =>
    intro zone id i w
    rw [hcalls]
    exact mem_plan item
  case once =>
    rw [hcalls]
    exact nodup_plan item ctx.window
  case ascending => exact (readings_places item ctx api).sublist (settledAt_places _)
  case settled =>
    intro i m
    exact mem_settledAt.trans (mem_readings_nics item ctx api)
  case shown => exact samplesOf_batch_eq item ctx api

/-- An interface without a switch between two others, and settings that end before the last. -/
example :
    let r : VpcRouter :=
      { common := { id := "1", interfaces := [{ switch := some {} },{},{ switch := some {} }] },
        settings := { router := { interfaces := [none,some { virtualIpAddress := "192.0.2.1" }] } } }
    switchedPlaces r.common = [0,2] ∧ slotTexts r 0 = ["","",""] ∧ slotTexts r 1 = ["192.0.2.1","",""] ∧
      slotTexts r 2 = ["","",""] := by
  decide

end CloudMetrics.Collect.VpcRouters
