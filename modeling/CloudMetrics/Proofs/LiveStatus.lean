import CloudMetrics.Proofs.SeriesJoins

/-!
# Live status beside the configuration

What is configured is gone through, and what is live is looked up for it. A load balancer shows nothing for
an address or a server that no live entry fits, and what the first fitting entry says otherwise; a proxy
load balancer shows every server, as down where none fits; a router shows every far end, as up where any
entry says so. Live entries that fit nothing configured are not seen.
-/
namespace CloudMetrics

open Cloud Metrics Time

namespace Metrics

/-- The first of some things that fits. -/
def First {β : Type} (fits : β → Prop) (live : List β) (y : β) : Prop :=
  ∃ before after, live = before ++ y :: after ∧ fits y ∧ ∀ z ∈ before, ¬fits z

/-- What is shown along a configured list: the rows of the first live entry that fits, under the place of the
thing that it fits, and nothing where no entry fits. -/
inductive Matched {α β : Type} (fits : α → β → Prop) (live : List β) (rows : Nat → α → β → Batch → Prop) :
    Nat → List α → Batch → Prop
  | nil {i : Nat} : Matched fits live rows i [] []
  | found {i : Nat} {x : α} {xs : List α} {y : β} {b c : Batch} : First (fits x) live y → rows i x y b →
      Matched fits live rows (i+1) xs c → Matched fits live rows i (x :: xs) (b++c)
  | absent {i : Nat} {x : α} {xs : List α} {c : Batch} : (∀ y ∈ live, ¬fits x y) →
      Matched fits live rows (i+1) xs c → Matched fits live rows i (x :: xs) c

section
variable {α β : Type} {fits : α → β → Prop} {p : α → β → Bool} {live : List β}
  {rows : Nat → α → β → Batch → Prop} {g : Nat → α → β → Batch}

theorem first_iff_find? {fits : β → Prop} {p : β → Bool} (hp : ∀ y, p y = true ↔ fits y) {y : β} :
    First fits live y ↔ live.find? p = some y := by
  simp only [List.find?_eq_some_iff_append,First,hp,Bool.not_eq_true',← Bool.not_eq_true]
  constructor
  · rintro ⟨before,after,hl,hy,hb⟩
    exact ⟨hy,before,after,hl,hb⟩
  · rintro ⟨hy,before,after,hl,hb⟩
    exact ⟨before,after,hl,hy,hb⟩

theorem absent_iff_find? {fits : β → Prop} {p : β → Bool} (hp : ∀ y, p y = true ↔ fits y) :
    (∀ y ∈ live, ¬fits y) ↔ live.find? p = none := by
  simp only [List.find?_eq_none,hp]

/-- The look-ups along the list, from some place on. -/
def lookUps (p : α → β → Bool) (live : List β) (g : Nat → α → β → Batch) : Nat → List α → Batch
  | _,[] => []
  | i,x :: xs => Collect.rowsOf (live.find? (p x)) (g i x) ++ lookUps p live g (i+1) xs

theorem lookUps_eq (i : Nat) (xs : List α) : lookUps p live g i xs =
    (xs.mapIdx fun k x => Collect.rowsOf (live.find? (p x)) (g (i+k) x)).flatten := by
  induction xs generalizing i with
  | nil => rfl
  | cons x xs ih =>
    have hk : ∀ k, i+1+k = i+(k+1) := by omega
    rw [lookUps,ih,List.mapIdx_cons,List.flatten_cons]
    simp only [hk,Nat.add_zero]

theorem Matched.of_lookUps (hp : ∀ x y, p x y = true ↔ fits x y) (hg : ∀ i x y, rows i x y (g i x y))
    (i : Nat) (xs : List α) : Matched fits live rows i xs (lookUps p live g i xs) := by
  induction xs generalizing i with
  | nil => exact .nil
  | cons x xs ih =>
    rw [lookUps]
    cases h : live.find? (p x) with
    | none => exact .absent ((absent_iff_find? (hp x)).mpr h) (ih (i+1))
    | some y => exact .found ((first_iff_find? (hp x)).mpr h) (hg i x y) (ih (i+1))

theorem Matched.result (hp : ∀ x y, p x y = true ↔ fits x y) (hg : ∀ i x y b, rows i x y b → b = g i x y)
    {i : Nat} {xs : List α} {b : Batch} (h : Matched fits live rows i xs b) : b = lookUps p live g i xs := by
  induction h with
  | nil => rfl
  | found hy hb _ ih =>
    rw [lookUps,(first_iff_find? (hp _)).mp hy,ih,hg _ _ _ _ hb]
    rfl
  | absent hn _ ih =>
    rw [lookUps,(absent_iff_find? (hp _)).mp hn,ih]
    rfl

theorem matched_iff (hp : ∀ x y, p x y = true ↔ fits x y) (hg : ∀ i x y b, rows i x y b ↔ b = g i x y)
    {xs : List α} {b : Batch} : Matched fits live rows 0 xs b ↔
      b = (xs.mapIdx fun i x => Collect.rowsOf (live.find? (p x)) (g i x)).flatten := by
  have hl : lookUps p live g 0 xs = _ := lookUps_eq 0 xs
  simp only [Nat.zero_add] at hl
  rw [← hl]
  constructor
  · exact Matched.result hp fun i x y b => (hg i x y b).mp
  · rintro rfl
    exact Matched.of_lookUps hp (fun i x y => (hg i x y _).mpr rfl) 0 xs

end

theorem find?_filter_of_imp {β : Type} {p q : β → Bool} (h : ∀ y, p y = true → q y = true) (live : List β) :
    (live.filter q).find? p = live.find? p := by
  rw [List.find?_filter]
  congr 1
  funext y
  cases hp : p y with
  | false => simp
  | true => simp [h y hp]

theorem rowsOf_sublist {β : Type} {o o' : Option β} {f g : β → Batch}
    (h : ∀ y, o = some y → ∃ z, o' = some z ∧ (f y).Sublist (g z)) :
    (Collect.rowsOf o f).Sublist (Collect.rowsOf o' g) := by
  cases o with
  | none => exact List.nil_sublist _
  | some y =>
    obtain ⟨z,rfl,hs⟩ := h y rfl
    exact hs

theorem flatten_mapIdx_sublist {α : Type} {f g : Nat → α → Batch} (xs : List α)
    (h : ∀ i x, (f i x).Sublist (g i x)) : (xs.mapIdx f).flatten.Sublist (xs.mapIdx g).flatten := by
  induction xs generalizing f g with
  | nil => exact List.Sublist.refl _
  | cons x xs ih =>
    rw [List.mapIdx_cons,List.mapIdx_cons,List.flatten_cons,List.flatten_cons]
    exact (h 0 x).append (ih fun i => h (i+1))

/-- A number that tells whether something holds. -/
def Tells (v : Float) (holds : Prop) : Prop := holds ∧ v = 1 ∨ ¬holds ∧ v = 0

theorem boolValue_tells {b : Bool} {holds : Prop} (h : b = true ↔ holds) : Tells (boolValue b) holds := by
  cases b with
  | true => exact .inl ⟨h.mp rfl,rfl⟩
  | false => exact .inr ⟨fun hh => Bool.false_ne_true (h.mpr hh),rfl⟩

/-- One row for each of some things, in their order, that tells whether something holds of it. -/
structure OneEach {α : Type} (g : Gauge) (labels : Nat → α → List String) (holds : α → Prop)
    (xs : List α) (b : Batch) : Prop where
  length_eq : b.length = xs.length
  told : ∀ i x, xs[i]? = some x → ∃ v, b[i]? = some (g.sample v (labels i x)) ∧ Tells v (holds x)

theorem OneEach.of_mapIdx {α : Type} {g : Gauge} {labels : Nat → α → List String} {holds : α → Prop}
    {test : α → Bool} (h : ∀ x, test x = true ↔ holds x) (xs : List α) :
    OneEach g labels holds xs (xs.mapIdx fun i x => g.sample (boolValue (test x)) (labels i x)) where
  length_eq := List.length_mapIdx
  told i x hx := ⟨boolValue (test x),by rw [List.getElem?_mapIdx,hx,Option.map_some],boolValue_tells (h x)⟩

end Metrics

namespace Cloud

/-- The ways to write that something is up. -/
def upSpellings : List String := ["up","Up","uP","UP"]

theorem eq_or_eq_of_toLower_eq {c : Char} (big : Char) (hbig : big.val ≥ 'A'.val ∧ big.val ≤ 'Z'.val)
    (he : c.toLower = big.toLower) : c = big.toLower ∨ c = big := by
  have hb : big.toLower.val = big.val + ('a'.val - 'A'.val) := congrArg Char.val (dif_pos hbig)
  by_cases h : c.val ≥ 'A'.val ∧ c.val ≤ 'Z'.val
  · have hc : c.toLower.val = c.val + ('a'.val - 'A'.val) := congrArg Char.val (dif_pos h)
    right
    apply Char.ext
    rw [← UInt32.add_left_inj ('a'.val - 'A'.val),← hc,← hb,he]
  · have hc : c.toLower = c := dif_neg h
    left
    rw [← hc,he]

theorem sameIgnoringCase_up_iff {s : String} : sameIgnoringCase s "up" = true ↔ s ∈ upSpellings := by
  rw [sameIgnoringCase,beq_iff_eq]
  constructor
  · intro h
    obtain ⟨c,cs,hs,hc,hcs⟩ := List.map_eq_cons_iff.mp h
    obtain ⟨d,ds,rfl,hd,hds⟩ := List.map_eq_cons_iff.mp hcs
    rw [List.map_eq_nil_iff.mp hds] at hs
    rw [← String.ofList_toList (s := s),hs]
    rcases eq_or_eq_of_toLower_eq 'U' (by decide) hc with rfl | rfl <;>
      rcases eq_or_eq_of_toLower_eq 'P' (by decide) hd with rfl | rfl <;> decide
  · intro h
    simp only [upSpellings,List.mem_cons,List.not_mem_nil,or_false] at h
    rcases h with rfl | rfl | rfl | rfl <;> rfl

end Cloud

namespace Collect

namespace LoadBalancers

def VipFits (vip : LoadBalancerVip) (v : LoadBalancerVipStatus) : Prop :=
  v.address = vip.address ∧ v.port = vip.port

def ServerFits (server : LoadBalancerServer) (u : LoadBalancerServerStatus) : Prop :=
  u.ipAddress = server.ipAddress ∧ u.port = server.port

variable (item : Zoned LoadBalancer)

/-- What is shown of a server that is found: whether it is up, and its connections. -/
def shownServer (i : Nat) (vip : LoadBalancerVip) (j : Nat) (server : LoadBalancerServer)
    (u : LoadBalancerServerStatus) : Batch :=
  let labels := [item.resource.common.id,item.resource.common.name,item.zone,toString i,vip.address,toString j,
    server.ipAddress]
  [serverUp.sample (if u.status ∈ upSpellings then 1 else 0) labels,
    serverConnection.sample u.activeConnections labels,serverCps.sample u.connectionsPerSecond labels]

/-- What is shown of a virtual address that is found: its connections, and those of its servers that are
found in the same entry. -/
def ShowsVip (i : Nat) (vip : LoadBalancerVip) (v : LoadBalancerVipStatus) (b : Batch) : Prop :=
  ∃ c, b = vipCps.sample v.connectionsPerSecond
      [item.resource.common.id,item.resource.common.name,item.zone,toString i,vip.address] :: c ∧
    Matched ServerFits v.servers (fun j server u b => b = shownServer item i vip j server u) 0 vip.servers c

/-- What a load balancer shows of its live status. -/
def Shows (status : List LoadBalancerVipStatus) (b : Batch) : Prop :=
  Matched VipFits status (ShowsVip item) 0 item.resource.settings.vips b

theorem vipFits_iff (vip : LoadBalancerVip) (v : LoadBalancerVipStatus) :
    (v.address == vip.address && v.port == vip.port) = true ↔ VipFits vip v := by
  simp only [VipFits,Bool.and_eq_true,beq_iff_eq]

theorem serverFits_iff (server : LoadBalancerServer) (u : LoadBalancerServerStatus) :
    (u.ipAddress == server.ipAddress && u.port == server.port) = true ↔ ServerFits server u := by
  simp only [ServerFits,Bool.and_eq_true,beq_iff_eq]

theorem shownServer_eq (i : Nat) (vip : LoadBalancerVip) (j : Nat) (server : LoadBalancerServer)
    (u : LoadBalancerServerStatus) :
    shownServer item i vip j server u = serverStatusRows (serverIdent item vip i server j) rfl u := by
  have hup : boolValue u.isUp = if u.status ∈ upSpellings then 1 else 0 :=
    if_congr sameIgnoringCase_up_iff rfl rfl
  unfold serverStatusRows
  rw [hup]
  rfl

theorem showsVip_iff (i : Nat) (vip : LoadBalancerVip) (v : LoadBalancerVipStatus) (b : Batch) :
    ShowsVip item i vip v b ↔ b = vipStatusRows item vip i v := by
  have hservers : ∀ c, Matched ServerFits v.servers
      (fun j server u b => b = shownServer item i vip j server u) 0 vip.servers c ↔ c = _ := fun c =>
    matched_iff serverFits_iff fun j server u b => by rw [shownServer_eq]
  constructor
  · rintro ⟨c,rfl,hc⟩
    rw [(hservers c).mp hc]
    rfl
  · rintro rfl
    exact ⟨_,rfl,(hservers _).mpr rfl⟩

theorem shows_iff {status : List LoadBalancerVipStatus} {b : Batch} :
    Shows item status b ↔ b = statusRows item status :=
  matched_iff vipFits_iff (showsVip_iff item)

/-- An entry with the servers that fit one configured for an address that it fits. -/
def withConfiguredServers (v : LoadBalancerVipStatus) : LoadBalancerVipStatus :=
  { v with servers := v.servers.filter fun u => item.resource.settings.vips.any fun vip =>
      (v.address == vip.address && v.port == vip.port) &&
        vip.servers.any fun server => u.ipAddress == server.ipAddress && u.port == server.port }

/-- The live entries that fit something configured. -/
def configuredPart (status : List LoadBalancerVipStatus) : List LoadBalancerVipStatus :=
  (status.filter fun v => item.resource.settings.vips.any fun vip =>
    v.address == vip.address && v.port == vip.port).map (withConfiguredServers item)

variable {item} in
theorem findVip_configuredPart {vip : LoadBalancerVip} (hvip : vip ∈ item.resource.settings.vips)
    (status : List LoadBalancerVipStatus) :
    findVip (configuredPart item status) vip = (findVip status vip).map (withConfiguredServers item) := by
  rw [findVip,configuredPart,List.find?_map]
  refine congrArg _ (find?_filter_of_imp ?_ status)
  intro v hv
  exact List.any_eq_true.mpr ⟨vip,hvip,hv⟩

variable {item} in
theorem findServer_withConfiguredServers {vip : LoadBalancerVip} (hvip : vip ∈ item.resource.settings.vips)
    {v : LoadBalancerVipStatus} (hv : VipFits vip v) {server : LoadBalancerServer} (hs : server ∈ vip.servers) :
    findServer (withConfiguredServers item v).servers server = findServer v.servers server := by
  apply find?_filter_of_imp
  intro u hu
  have hfits := (vipFits_iff vip v).mpr hv
  exact List.any_eq_true.mpr ⟨vip,hvip,Bool.and_eq_true_iff.mpr ⟨hfits,List.any_eq_true.mpr ⟨server,hs,hu⟩⟩⟩

theorem statusRows_configuredPart (status : List LoadBalancerVipStatus) :
    statusRows item (configuredPart item status) = statusRows item status := by
  refine congrArg List.flatten (List.mapIdx_eq_mapIdx_iff.mpr fun i hi => ?_)
  have hvip := List.getElem_mem hi
  rw [findVip_configuredPart hvip]
  cases hv : findVip status item.resource.settings.vips[i] with
  | none => rfl
  | some v =>
    have hfound := List.find?_some hv
    have hfits := (vipFits_iff _ v).mp hfound
    refine congrArg (_ :: List.flatten ·) (List.mapIdx_eq_mapIdx_iff.mpr fun j hj => ?_)
    rw [findServer_withConfiguredServers hvip hfits (List.getElem_mem hj)]

/-- Further entries stand behind the ones that were there, of addresses and of their servers. -/
def Extends (status later : List LoadBalancerVipStatus) : Prop :=
  ∃ kept more, later = kept++more ∧
    List.Forall₂ (fun v w => ∃ servers, w = { v with servers := v.servers++servers }) status kept

theorem findVip_of_extends {status later : List LoadBalancerVipStatus} (h : Extends status later)
    {vip : LoadBalancerVip} {v : LoadBalancerVipStatus} (hv : findVip status vip = some v) :
    ∃ servers, findVip later vip = some { v with servers := v.servers++servers } := by
  obtain ⟨kept,more,rfl,hk⟩ := h
  induction hk with
  | nil => contradiction
  | @cons w _ _ _ hw _ ih =>
    obtain ⟨servers,rfl⟩ := hw
    simp only [findVip,List.cons_append,List.find?_cons] at hv ih ⊢
    cases h : w.address == vip.address && w.port == vip.port with
    | true =>
      rw [h] at hv
      obtain rfl := Option.some.inj hv
      exact ⟨servers,rfl⟩
    | false =>
      rw [h] at hv
      exact ih hv

theorem findServer_append {us : List LoadBalancerServerStatus} {server : LoadBalancerServer}
    {u : LoadBalancerServerStatus} (h : findServer us server = some u) (more : List LoadBalancerServerStatus) :
    findServer (us++more) server = some u := by
  rw [findServer,List.find?_append,← findServer,h,Option.some_or]

theorem vipStatusRows_sublist (i : Nat) (vip : LoadBalancerVip) (v : LoadBalancerVipStatus)
    (servers : List LoadBalancerServerStatus) : (vipStatusRows item vip i v).Sublist
      (vipStatusRows item vip i { v with servers := v.servers++servers }) := by
  apply List.Sublist.cons_cons
  apply flatten_mapIdx_sublist
  intro j server
  exact rowsOf_sublist fun u hu => ⟨u,findServer_append hu servers,List.Sublist.refl _⟩

theorem statusRows_sublist {status later : List LoadBalancerVipStatus} (h : Extends status later) :
    (statusRows item status).Sublist (statusRows item later) := by
  apply flatten_mapIdx_sublist
  intro i vip
  apply rowsOf_sublist
  intro v hv
  obtain ⟨servers,hw⟩ := findVip_of_extends h hv
  exact ⟨_,hw,vipStatusRows_sublist item i vip v servers⟩

/-- A row that was there is the only one of its series, also when further entries have come. -/
theorem eq_of_extends {status later : List LoadBalancerVipStatus} (h : Extends status later) {s t : Sample}
    (hs : s ∈ statusRows item status) (ht : t ∈ statusRows item later) (he : t.series = s.series) : t = s :=
  List.inj_on_of_nodup_map (statusRows_tidy item later).distinct ht ((statusRows_sublist item h).subset hs) he

theorem samplesOf_batch (ctx : Context) (api : Api) :
    samplesOf [vipCps,serverUp,serverConnection,serverCps] (batch ctx api item).value =
      rowsOf (api (.loadBalancerStatus item.zone item.resource.common.id)).toOption (statusRows item) := by
  have hb : (batch ctx api item).value = rows item ++ readingRows item (readings ctx api item).value := rfl
  have hr : (readings ctx api item).value.status =
      (api (.loadBalancerStatus item.zone item.resource.common.id)).toOption := by
    rw [← ctx.fetch_call_value api _ "status" item.resource.common.id]
    simp only [readings,Run.bind_value]
    split <;> rfl
  have hstatus := Tidy.rowsOf (statusRows_tidy item) (readings ctx api item).value.status
  rw [hb,samplesOf_append,(rows_tidy item).samplesOf_eq_nil (by decide),
    samplesOf_readingRows item _ (by decide),hstatus.samplesOf_eq_self (List.Subset.refl _),hr]
  rfl

end LoadBalancers

namespace ProxyLbs

def ServerFits (server : ProxyLbServer) (u : ProxyLbServerHealth) : Prop :=
  u.ipAddress = server.ipAddress ∧ u.port = server.port

variable (item : Zoned ProxyLb)

/-- The first entry of a server says that it is up. -/
def SaidUp (health : ProxyLbHealth) (server : ProxyLbServer) : Prop :=
  ∃ u, First (ServerFits server) health.servers u ∧ u.status ∈ upSpellings

theorem saidUp_iff (health : ProxyLbHealth) (server : ProxyLbServer) :
    (findServer health.servers server).any ProxyLbServerHealth.isUp = true ↔ SaidUp health server := by
  have hfits : ∀ u : ProxyLbServerHealth, (u.ipAddress == server.ipAddress && u.port == server.port) = true ↔
      ServerFits server u := by simp [ServerFits]
  simp only [SaidUp,first_iff_find? hfits,Option.any_eq_true]
  exact exists_congr fun u => and_congr_right fun _ => sameIgnoringCase_up_iff

theorem healthRows_oneEach (health : ProxyLbHealth) : OneEach serverUp
    (fun i server => [item.resource.id,item.resource.name,toString i,server.ipAddress,server.port])
    (SaidUp health) item.resource.settings.spec.servers (healthRows item health) :=
  .of_mapIdx (saidUp_iff health) _

theorem samplesOf_batch (ctx : Context) (api : Api) :
    samplesOf [serverUp] (batch ctx api item).value =
      rowsOf (api (.proxyLbHealth item.zone item.resource.id)).toOption (healthRows item) := by
  have hb : (batch ctx api item).value = rows item ++ readingRows item (readings ctx api item).value := rfl
  have hr : (readings ctx api item).value.health =
      (api (.proxyLbHealth item.zone item.resource.id)).toOption := by
    rw [← ctx.fetch_call_value api _ "health" item.resource.id]
    simp only [readings,Run.bind_value]
    split <;> rfl
  rw [hb,samplesOf_append,(rows_tidy item).samplesOf_eq_nil (by decide),samplesOf_readingRows,hr]
  rfl

end ProxyLbs

namespace VpcRouters

variable (item : Zoned VpcRouter)

/-- Some entry of a far end says that it is up. -/
def SaidUp (status : VpcRouterStatus) (peer : PeerSetting) : Prop :=
  ∃ s ∈ status.peers, s.peer = peer.peer ∧ s.status ∈ upSpellings

theorem saidUp_iff (status : VpcRouterStatus) (peer : PeerSetting) :
    peerIsUp status.peers peer = true ↔ SaidUp status peer := by
  simp only [peerIsUp,SaidUp,List.any_eq_true,Bool.and_eq_true,beq_iff_eq,sameIgnoringCase_up_iff]

theorem samplesOf_statusRows (status : VpcRouterStatus) :
    samplesOf [peerStatus] (statusRows item status) = peerRows item status := by
  rw [statusRows_eq,samplesOf_append,(countRows_tidy item status).samplesOf_eq_nil (by decide),
    (peerRows_tidy item status).samplesOf_eq_self (List.Subset.refl _),List.nil_append]

theorem peerRows_oneEach (status : VpcRouterStatus) : OneEach peerStatus
    (fun i peer => [item.resource.common.id,item.resource.common.name,item.zone,toString i,peer.peer])
    (SaidUp status) (peers item.resource) (samplesOf [peerStatus] (statusRows item status)) := by
  rw [samplesOf_statusRows]
  exact .of_mapIdx (saidUp_iff status) _

theorem samplesOf_batch (ctx : Context) (api : Api) :
    samplesOf [peerStatus] (batch ctx api item).value =
      samplesOf [peerStatus] (rowsOf (api (.vpcRouterStatus item.zone item.resource.common.id)).toOption
        (statusRows item)) := by
  have hb : (batch ctx api item).value = rows item ++ readingRows item (readings ctx api item).value := rfl
  have hr : (readings ctx api item).value.status =
      (api (.vpcRouterStatus item.zone item.resource.common.id)).toOption := by
    rw [← ctx.fetch_call_value api _ "status" item.resource.common.id]
    simp only [readings,Run.bind_value]
    split <;> rfl
  have hcpu := Tidy.rowsOf (cpuRows_tidy item) (readings ctx api item).value.cpu
  have hnics : samplesOf [peerStatus] ((readings ctx api item).value.nics.flatMap fun p =>
      rowsOf p.2 (trafficRows item p.1)) = [] := by
    rw [samplesOf_flatMap,List.flatMap_eq_nil_iff]
    intro p _
    exact (Tidy.rowsOf (trafficRows_tidy item p.1) p.2).samplesOf_eq_nil (by decide)
  rw [hb,samplesOf_append,(rows_tidy item).samplesOf_eq_nil (by decide),readingRows,samplesOf_append,
    samplesOf_append,hcpu.samplesOf_eq_nil (by decide),hnics,List.append_nil,
    List.append_nil,hr]
  rfl

end VpcRouters

/-- What is live is looked up for what is configured. Of a load balancer an address is shown if an entry fits
it, with what the first such entry says, and a server of it if that entry has one that fits; entries that fit
nothing configured are not seen, and entries that come behind change no row. Every server of a proxy load
balancer is shown as up if its first entry says so, and every far end of a router if any of its entries
does. -/
theorem live_status_is_matched_to_the_configuration (ctx : Context) (api : Api) :
    (∀ item,
      samplesOf [LoadBalancers.vipCps,LoadBalancers.serverUp,LoadBalancers.serverConnection,
          LoadBalancers.serverCps] (LoadBalancers.batch ctx api item).value =
        rowsOf (api (.loadBalancerStatus item.zone item.resource.common.id)).toOption
          (LoadBalancers.statusRows item) ∧
      ∀ status,
        (∀ b, LoadBalancers.Shows item status b ↔ b = LoadBalancers.statusRows item status) ∧
        LoadBalancers.statusRows item (LoadBalancers.configuredPart item status) =
          LoadBalancers.statusRows item status ∧
        ∀ later, LoadBalancers.Extends status later →
          (LoadBalancers.statusRows item status).Sublist (LoadBalancers.statusRows item later) ∧
          ∀ s ∈ LoadBalancers.statusRows item status, ∀ t ∈ LoadBalancers.statusRows item later,
            t.series = s.series → t = s) ∧
    (∀ item,
      samplesOf [ProxyLbs.serverUp] (ProxyLbs.batch ctx api item).value =
        rowsOf (api (.proxyLbHealth item.zone item.resource.id)).toOption (ProxyLbs.healthRows item) ∧
      ∀ health, OneEach ProxyLbs.serverUp
        (fun i server => [item.resource.id,item.resource.name,toString i,server.ipAddress,server.port])
        (ProxyLbs.SaidUp health) item.resource.settings.spec.servers (ProxyLbs.healthRows item health)) ∧
    ∀ item,
      samplesOf [VpcRouters.peerStatus] (VpcRouters.batch ctx api item).value =
        samplesOf [VpcRouters.peerStatus]
          (rowsOf (api (.vpcRouterStatus item.zone item.resource.common.id)).toOption
            (VpcRouters.statusRows item)) ∧
      ∀ status, OneEach VpcRouters.peerStatus
        (fun i peer => [item.resource.common.id,item.resource.common.name,item.zone,toString i,peer.peer])
        (VpcRouters.SaidUp status) (VpcRouters.peers item.resource)
        (samplesOf [VpcRouters.peerStatus] (VpcRouters.statusRows item status)) := by
  refine ⟨?balancers,?proxies,?routers⟩
  case balancers =>
    intro item
    refine ⟨LoadBalancers.samplesOf_batch item ctx api,fun status => ⟨?_,?_,?_⟩⟩
    · exact fun b => LoadBalancers.shows_iff item
    · exact LoadBalancers.statusRows_configuredPart item status
    · intro later h
      constructor
      · exact LoadBalancers.statusRows_sublist item h
      · intro s hs t ht
        exact LoadBalancers.eq_of_extends item h hs ht
  case proxies =>
    intro item
    exact ⟨ProxyLbs.samplesOf_batch item ctx api,ProxyLbs.healthRows_oneEach item⟩
  case routers =>
    intro item
    exact ⟨VpcRouters.samplesOf_batch item ctx api,VpcRouters.peerRows_oneEach item⟩

/-- A load balancer with two addresses, the first of them with two servers. -/
def twoAddresses : Zoned LoadBalancer :=
  ⟨"tk1a",{ common := { id := "1" }, settings := { vips := [
    { address := "192.0.2.1", port := "80", servers := [{ ipAddress := "10.0.0.1", port := "80" },
      { ipAddress := "10.0.0.2", port := "80" }] },{ address := "192.0.2.2", port := "80" }] } }⟩

/-- One server behind one address is live. -/
def oneLive : List LoadBalancerVipStatus :=
  [{ address := "192.0.2.1", port := "80", servers := [{ ipAddress := "10.0.0.1", port := "80", status := "Up" }] }]

/-- Further entries of what is live, and first ones of what was not. -/
def allLive : List LoadBalancerVipStatus :=
  [{ address := "192.0.2.1", port := "80", servers := [{ ipAddress := "10.0.0.1", port := "80", status := "Up" },
      { ipAddress := "10.0.0.1", port := "80", status := "down" },{ ipAddress := "10.0.0.2", port := "80" }] },
    { address := "192.0.2.1", port := "80", connectionsPerSecond := 7 },{ address := "192.0.2.2", port := "80" }]

/-- The four rows of what was live are among the eight rows of all. -/
theorem live_status_is_matched_of_two_addresses : LoadBalancers.Extends oneLive allLive ∧
    (LoadBalancers.statusRows twoAddresses oneLive).length = 4 ∧
    (LoadBalancers.statusRows twoAddresses allLive).length = 8 ∧
    (LoadBalancers.statusRows twoAddresses oneLive).Sublist (LoadBalancers.statusRows twoAddresses allLive) := by
  have hl : LoadBalancers.Extends oneLive allLive :=
    ⟨allLive.take 1,allLive.drop 1,rfl,.cons ⟨[_,_],rfl⟩ .nil⟩
  have h := live_status_is_matched_to_the_configuration (.new "load_balancer" ["tk1a"] .epoch)
    fun c => .error (.transport c.path)
  exact ⟨hl,rfl,rfl,(((h.1 twoAddresses).2 oneLive).2.2 allLive hl).1⟩

end Collect

end CloudMetrics
