import CloudMetrics.Proofs.MonitorLayouts
import CloudMetrics.Proofs.SeriesJoins

/-!
# The series of monitors

A batch shows a series of a monitor once or not at all: once, from the settled point of the monitor and under
its instant, when there are two complete points, and not at all otherwise. This is said of the batch as a
whole: of the rows of all other parts none has the name and the labels of the series. What is no sample of a
monitor is as of now, and of a gauge that no monitor has.
-/
namespace CloudMetrics.Collect

open Cloud Metrics Time

/-- The samples of a series in a batch. -/
def Series.samplesOf (s : Series) (b : Batch) : Batch := b.filter fun x => x.series == s.key

section
variable {api : Api} {monitored : List Gauge} {layout : List Part} {bs : List Batch} {b c : Batch} {p : Part}
  {s : Series} {series : List Series} {x : Sample}

theorem Series.mem_samplesOf : x ∈ s.samplesOf b ↔ x ∈ b ∧ x.series = s.key := by
  simp [samplesOf]

theorem Series.samplesOf_append : s.samplesOf (b++c) = s.samplesOf b ++ s.samplesOf c := List.filter_append ..

/-- Of rows that show different series, those of one series are its own row. -/
theorem Series.samplesOf_map_sample (hd : (series.map Series.key).Nodup) (hs : s ∈ series) (q : Point × Instant) :
    s.samplesOf (series.map fun s => s.sample q) = [s.sample q] := by
  have hkey : (fun x : Sample => x.series == s.key) ∘ (fun s => s.sample q) =
      fun t : Series => t.key == s.key := rfl
  obtain ⟨t,ht⟩ := exists_filter_eq_singleton hd (List.mem_map_of_mem hs)
  have hmem : s ∈ series.filter fun t => t.key == s.key := List.mem_filter.mpr ⟨hs,beq_self_eq_true _⟩
  rw [ht,List.mem_singleton] at hmem
  rw [samplesOf,List.filter_map,hkey,ht,hmem]
  rfl

/-- A row is as of now and of a gauge of its part, or it is of a series of its part. -/
theorem Part.Shows.row {rows : Batch} (h : p.Shows api rows) (hx : x ∈ rows) :
    (∃ gauges, p = .untimed gauges ∧ (∃ g ∈ gauges, g.name = x.name) ∧ x.time = none) ∨
    ∃ s ∈ p.series, x.series = s.key := by
  cases p with
  | untimed gauges => exact .inl ⟨gauges,rfl,h.1 x hx,h.2 x hx⟩
  | monitor call series =>
    obtain ⟨⟨o,rfl⟩,-⟩ := h
    obtain ⟨q,-,hx⟩ := mem_rowsOf.mp hx
    obtain ⟨s,hs,rfl⟩ := List.mem_map.mp hx
    exact .inr ⟨s,hs,rfl⟩

/-- The series of one part differ. -/
theorem Separate.part (hl : Separate monitored layout) (hp : p ∈ layout) : (p.series.map Series.key).Nodup := by
  have hd := hl.distinct
  rw [List.map_flatMap,List.nodup_flatMap] at hd
  exact hd.1 p hp

theorem nodup_of_length_lt_two {α : Type} {xs : List α} (h : xs.length < 2) : xs.Nodup :=
  match xs,h with
  | [],_ => .nil
  | [x],_ => List.nodup_singleton x

/-- A stretch of other parts has no sample of a series. -/
theorem samplesOf_eq_nil (h : List.Forall₂ (Part.Shows api) layout bs)
    (hs : s.key ∉ (layout.flatMap Part.series).map Series.key)
    (hg : ∀ gauges, .untimed gauges ∈ layout → ∀ g ∈ gauges, g.name ≠ s.gauge.name) :
    s.samplesOf bs.flatten = [] := by
  induction h with
  | nil => rfl
  | @cons p rows layout bs hp _ ih =>
    rw [List.flatMap_cons,List.map_append,List.mem_append,not_or] at hs
    have hrest := ih hs.2 fun gauges hm => hg gauges (List.mem_cons_of_mem p hm)
    rw [List.flatten_cons,Series.samplesOf_append,hrest,List.append_nil,List.eq_nil_iff_forall_not_mem]
    intro x hx
    obtain ⟨hx,hkey⟩ := Series.mem_samplesOf.mp hx
    rcases hp.row hx with ⟨gauges,rfl,⟨g,hm,hn⟩,-⟩ | ⟨t,ht,hk⟩
    · exact hg gauges List.mem_cons_self g hm (hn.trans (congrArg Prod.fst hkey))
    · exact hs.1 (List.mem_map.mpr ⟨t,ht,hk.symm.trans hkey⟩)

theorem Separate.tail (hl : Separate monitored (p :: layout)) : Separate monitored layout := by
  refine ⟨fun s hs => hl.named s ?_,?_,fun gauges hg => hl.apart gauges (List.mem_cons_of_mem p hg)⟩
  · rw [List.flatMap_cons]
    exact List.mem_append_right _ hs
  · have hd := hl.distinct
    rw [List.flatMap_cons,List.map_append] at hd
    exact hd.of_append_right

theorem Separate.name_ne (hl : Separate monitored layout) (hp : p ∈ layout) (hs : s ∈ p.series) :
    ∀ gauges, .untimed gauges ∈ layout → ∀ g ∈ gauges, g.name ≠ s.gauge.name := by
  intro gauges hm g hg he
  obtain ⟨g',hg',hn⟩ := hl.named s (List.mem_flatMap.mpr ⟨p,hp,hs⟩)
  exact hl.apart gauges hm g hg g' hg' (he.trans hn.symm)

/-- What a batch shows of a series, one part of it does. -/
theorem exists_rows (h : List.Forall₂ (Part.Shows api) layout bs) (hl : Separate monitored layout)
    (hp : p ∈ layout) :
    ∃ rows, p.Shows api rows ∧ ∀ s ∈ p.series, s.samplesOf bs.flatten = s.samplesOf rows := by
  induction h with
  | nil => cases hp
  | @cons first rows layout bs hfirst hrest ih =>
    have hdis := hl.distinct
    rw [List.flatMap_cons,List.map_append,List.nodup_append] at hdis
    have hname {s : Series} (hs : s ∈ p.series) := hl.name_ne hp hs
    rcases List.mem_cons.mp hp with rfl | hp
    · refine ⟨rows,hfirst,fun s hs => ?_⟩
      have hnot : s.key ∉ (layout.flatMap Part.series).map Series.key :=
        fun hm => hdis.2.2 s.key (List.mem_map_of_mem hs) s.key hm rfl
      have hnil := samplesOf_eq_nil hrest hnot fun gauges hm => hname hs gauges (List.mem_cons_of_mem p hm)
      rw [List.flatten_cons,Series.samplesOf_append,hnil,List.append_nil]
    · obtain ⟨rows',hrows,heq⟩ := ih hl.tail hp
      refine ⟨rows',hrows,fun s hs => ?_⟩
      have hin : s ∈ layout.flatMap Part.series := List.mem_flatMap.mpr ⟨p,hp,hs⟩
      have hnot : s.key ∉ ([first].flatMap Part.series).map Series.key := by
        rw [List.flatMap_singleton]
        exact fun hm => hdis.2.2 s.key hm s.key (List.mem_map_of_mem hin) rfl
      have hnil := samplesOf_eq_nil (List.Forall₂.cons hfirst .nil) hnot fun gauges hm =>
        hname hs gauges (List.mem_cons.mpr (.inl (List.mem_singleton.mp hm)))
      rw [List.flatten_singleton] at hnil
      rw [List.flatten_cons,Series.samplesOf_append,hnil,List.nil_append]
      exact heq s hs

/-- Each row of a batch is one of a part. -/
theorem exists_part {rows : Batch} (h : List.Forall₂ (Part.Shows api) layout bs) (hr : rows ∈ bs) :
    ∃ p ∈ layout, p.Shows api rows := by
  obtain ⟨i,hi,rfl⟩ := List.getElem_of_mem hr
  have hl : i < layout.length := h.length_eq ▸ hi
  exact ⟨layout[i],List.getElem_mem hl,h.get hl hi⟩

end

/-- What a batch shows of the monitors of its layout: with two complete points each series once, from the
settled point and under its instant, and with fewer no series at all. All other samples are as of now, and
of gauges that no monitor has. -/
structure Displays (api : Api) (monitored : List Gauge) (layout : List Part) (b : Batch) : Prop where
  found : ∀ c series, .monitor c series ∈ layout → ∀ points, Reports api c points →
    ((completePoints c.required points).map instant?).Nodup → 2 ≤ (completePoints c.required points).length →
    ∃ q, (∀ o, Settled c.required points o ↔ o = some q) ∧ ∀ s ∈ series, s.samplesOf b = [s.sample q]
  missing : ∀ c series, .monitor c series ∈ layout → ∀ points, Reports api c points →
    (completePoints c.required points).length < 2 → ∀ s ∈ series, s.samplesOf b = []
  failed : ∀ c series, .monitor c series ∈ layout → api.fails c = true → ∀ s ∈ series, s.samplesOf b = []
  others : ∀ x ∈ b, (∃ c series, .monitor c series ∈ layout ∧ ∃ s ∈ series, x ∈ s.samplesOf b) ∨
    (∀ g ∈ monitored, g.name ≠ x.name) ∧ x.time = none

section
variable {api api' : Api} {monitored gauges : List Gauge} {layout layout' : List Part} {b b' : Batch}

theorem Shows.displays (h : Shows api layout b) (hl : Separate monitored layout) :
    Displays api monitored layout b := by
  obtain ⟨bs,hbs,rfl⟩ := h
  have hempty : ∀ s : Series, s.samplesOf [] = [] := fun _ => rfl
  refine ⟨?_,?_,?_,?_⟩
  · intro c series hm points hr hd h2
    obtain ⟨rows,⟨-,-,hsettled⟩,heq⟩ := exists_rows hbs hl hm
    obtain ⟨o,ho,hsome,hrows⟩ := hsettled points hr hd
    obtain ⟨q,rfl⟩ := Option.isSome_iff_exists.mp (hsome.mpr h2)
    refine ⟨q,ho,fun s hs => ?_⟩
    rw [heq s hs,hrows]
    exact Series.samplesOf_map_sample (hl.part hm) hs q
  · intro c series hm points hr h2 s hs
    obtain ⟨rows,⟨-,-,hsettled⟩,heq⟩ := exists_rows hbs hl hm
    obtain ⟨o,-,hsome,hrows⟩ := hsettled points hr (nodup_of_length_lt_two (by rwa [List.length_map]))
    have hnone : o = none := by
      rw [← Option.not_isSome_iff_eq_none,hsome]
      exact Nat.not_le_of_lt h2
    rw [heq s hs,hrows,hnone]
    exact hempty s
  · intro c series hm hf s hs
    obtain ⟨rows,⟨-,hfailed,-⟩,heq⟩ := exists_rows hbs hl hm
    rw [heq s hs,hfailed hf]
    exact hempty s
  · intro x hx
    obtain ⟨rows,hr,hxr⟩ := List.mem_flatten.mp hx
    obtain ⟨p,hp,hshows⟩ := exists_part hbs hr
    rcases hshows.row hxr with ⟨gauges,rfl,⟨g,hg,hn⟩,ht⟩ | ⟨s,hs,hk⟩
    · exact .inr ⟨fun g' hg' he => hl.apart gauges hp g hg g' hg' (hn.trans he.symm),ht⟩
    · cases p with
      | untimed gauges => cases hs
      | monitor c series => exact .inl ⟨c,series,hp,s,hs,Series.mem_samplesOf.mpr ⟨hx,hk⟩⟩

/-- A gauge of monitors that no series of a layout belongs to has no samples. -/
theorem Displays.samplesOf_eq_nil (h : Displays api monitored layout b) {g : Gauge} (hg : g ∈ monitored)
    (hs : ∀ c series, .monitor c series ∈ layout → ∀ s ∈ series, s.gauge.name ≠ g.name) :
    samplesOf [g] b = [] := by
  rw [List.eq_nil_iff_forall_not_mem]
  intro x hx
  obtain ⟨hx,g',hg',hn⟩ := mem_samplesOf.mp hx
  rw [List.mem_singleton.mp hg'] at hn
  rcases h.others x hx with ⟨c,series,hm,s,hsm,hxs⟩ | ⟨hapart,-⟩
  · have hkey := congrArg Prod.fst (Series.mem_samplesOf.mp hxs).2
    exact hs c series hm s hsm (hkey.symm.trans hn.symm)
  · exact hapart g hg hn

/-- What is shown of a monitor is the same wherever it reports the same points. -/
theorem Displays.eq_of_reports {c : Call} {series : List Series} {points : MonitorPoints}
    (h : Displays api monitored layout b) (h' : Displays api' gauges layout' b')
    (hm : .monitor c series ∈ layout) (hm' : .monitor c series ∈ layout') (hr : Reports api c points)
    (hr' : Reports api' c points) (hd : ((completePoints c.required points).map instant?).Nodup) :
    ∀ s ∈ series, s.samplesOf b = s.samplesOf b' := by
  intro s hs
  by_cases h2 : 2 ≤ (completePoints c.required points).length
  · obtain ⟨q,hq,hs₁⟩ := h.found c series hm points hr hd h2
    obtain ⟨q',hq',hs₂⟩ := h'.found c series hm' points hr' hd h2
    have heq : q = q' := Option.some.inj ((hq' (some q)).mp ((hq (some q)).mpr rfl))
    rw [hs₁ s hs,hs₂ s hs,heq]
  · have hlt := Nat.lt_of_not_le h2
    rw [h.missing c series hm points hr hlt s hs,h'.missing c series hm' points hr' hlt s hs]

end

/-- A database that follows no other one has no replication delay. -/
theorem Databases.samplesOf_replicationDelay {api : Api} {w : Window} {item : Zoned Database} {b : Batch}
    (hrole : item.resource.replicationRole ≠ "slave") (h : Displays api monitored (layout w item) b) :
    samplesOf [replicationDelay] b = [] := by
  have hgauges : ((layout w item).flatMap Part.series).map Series.gauge ⊆ monitored.dropLast := by
    unfold layout usageSeries
    rw [if_neg hrole]
    split
    · exact List.Subset.refl monitored.dropLast
    · exact List.nil_subset monitored.dropLast
  have hapart : Apart monitored.dropLast [replicationDelay] := by decide
  refine h.samplesOf_eq_nil (by simp [monitored]) fun c series hm s hs => ?_
  have hmem : s ∈ (layout w item).flatMap Part.series := List.mem_flatMap.mpr ⟨_,hm,hs⟩
  exact hapart s.gauge (hgauges (List.mem_map_of_mem hmem)) replicationDelay List.mem_cons_self

/-- What the batches of a run are laid out as: one layout for each listed resource. -/
def layouts {α : Type} (api : Api) (zones : List String) (call : String → Call)
    (answer : String → Except ApiError (List α)) (layout : Zoned α → List Part) : List (List Part) :=
  if zones.any fun z => api.fails (call z) then []
  else zones.flatMap fun z => ((answer z).toOption.getD []).map fun r => layout ⟨z,r⟩

theorem isMonitor_of_isListing {c : Call} (h : c.isListing = true) : c.isMonitor = false := by
  cases c <;> first | rfl | exact absurd h Bool.false_ne_true

namespace Cycle

variable {ctx : Context} {api : Api} {α : Type} (c : Cycle ctx api α)

/-- The batches of a cycle are laid out in a given way, and its plan asks for these monitors. -/
structure LaysOut (monitored : List Gauge) (layout : Zoned α → List Part) : Prop where
  shows : ∀ r, Shows api (layout r) (c.batch r).value
  separate : ∀ r, Separate monitored (layout r)
  monitors_eq : ∀ r, monitors (layout r) = (c.plan r).filter Call.isMonitor

theorem filter_listings : (c.zones.map c.call).filter Call.isMonitor = [] := by
  rw [List.filter_eq_nil_iff]
  intro d hd
  obtain ⟨z,-,rfl⟩ := List.mem_map.mp hd
  rw [isMonitor_of_isListing (c.isListing_call z)]
  exact Bool.false_ne_true

theorem layouts_of_isComplete (h : c.isComplete c.zones = true) (layout : Zoned α → List Part) :
    layouts api c.zones c.call c.answer layout = c.listed.map layout := by
  have hf : (c.zones.any fun z => api.fails (c.call z)) = false := by
    simpa [Listing.isComplete] using h
  rw [layouts,hf,if_neg Bool.false_ne_true,listed,Listing.resources,List.map_flatMap]
  simp only [List.map_map,Function.comp_def]

theorem layouts_of_not_isComplete (h : c.isComplete c.zones = false) (layout : Zoned α → List Part) :
    layouts api c.zones c.call c.answer layout = [] := by
  have hf : (c.zones.any fun z => api.fails (c.call z)) = true := by
    simpa [Listing.isComplete] using h
  rw [layouts,if_pos hf]

variable {c} {monitored : List Gauge} {layout : Zoned α → List Part} (hl : c.LaysOut monitored layout)
  (schedule : Schedule)

include hl

/-- Each batch of a run displays the layout of one listed resource. -/
theorem LaysOut.batches : ∃ batches : List Batch,
    List.Forall₂ (Displays api monitored) (layouts api c.zones c.call c.answer layout) batches ∧
    (batches.filter (!·.isEmpty)).Perm (c.run schedule).journal.batches := by
  cases h : c.isComplete c.zones with
  | true =>
    refine ⟨c.listed.map fun r => (c.batch r).value,?_,?_⟩
    · rw [c.layouts_of_isComplete h,List.forall₂_map_left_iff,List.forall₂_map_right_iff,
        List.forall₂_same]
      exact fun r _ => (hl.shows r).displays (hl.separate r)
    · rw [List.filter_eq_self.mpr]
      · exact (c.batches_perm schedule h).symm
      · intro b hb
        obtain ⟨r,-,rfl⟩ := List.mem_map.mp hb
        simpa using c.batch_ne_nil r
  | false =>
    refine ⟨[],?_,?_⟩
    · rw [c.layouts_of_not_isComplete h]
      exact .nil
    · rw [(c.run_of_not_isComplete schedule h).2.batches]
      exact .nil

/-- The monitors that a run asks for are those of its layouts. -/
theorem LaysOut.calls : ((c.run schedule).journal.calls.filter Call.isMonitor).Perm
    ((layouts api c.zones c.call c.answer layout).flatMap monitors) := by
  cases h : c.isComplete c.zones with
  | true =>
    have hp := (c.calls_perm schedule h).filter Call.isMonitor
    rw [List.filter_append,c.filter_listings,List.nil_append,List.filter_flatMap] at hp
    rw [c.layouts_of_isComplete h,List.flatMap_map]
    refine hp.trans (.of_eq (List.flatMap_congr fun r _ => ?_))
    exact (hl.monitors_eq r).symm
  | false =>
    rw [(c.run_of_not_isComplete schedule h).1,c.filter_listings,c.layouts_of_not_isComplete h]
    exact .nil

end Cycle

/-- A run for account data asks for no monitor. -/
theorem Journal.HandsOver.laysOut {gauges : List Gauge} {collector : String} {api : Api} {c : Call}
    {j : Journal} (hg : j.HandsOver gauges) (hj : j.Consults collector api c) (hc : c.isMonitor = false) :
    (∃ batches : List Batch, List.Forall₂ (Displays api []) [[.untimed gauges]] batches ∧
      (batches.filter (!·.isEmpty)).Perm j.batches) ∧
    (j.calls.filter Call.isMonitor).Perm [] := by
  obtain ⟨b,hp,hb⟩ := hg
  have hb' : Displays api [] [.untimed gauges] b :=
    (Shows.untimed hp.named hp.time_eq_none).displays (.of_untimed gauges)
  refine ⟨⟨[b],.cons hb' .nil,.of_eq hb.symm⟩,.of_eq (List.filter_eq_nil_iff.mpr ?_)⟩
  intro d hd
  rw [hj.eq_of_mem d hd,hc]
  exact Bool.false_ne_true

namespace Kind

/-- The gauges that show what monitors report. -/
def monitored : Kind → List Gauge
  | .server => Servers.monitored
  | .database => Databases.monitored
  | .loadBalancer => LoadBalancers.monitored
  | .vpcRouter => VpcRouters.monitored
  | .nfs => FileServers.monitored
  | .internet => Internets.monitored
  | .proxyLb => ProxyLbs.monitored
  | .autoBackup | .bill | .coupon => []

/-- What the batches of a kind are laid out as. -/
def layouts (s : Setting) : Kind → List (List Part)
  | .server =>
    Collect.layouts s.api s.context.zones .servers (fun z => s.api (.servers z))
      (Servers.layout s.context.window)
  | .database =>
    Collect.layouts s.api s.context.zones .databases (fun z => s.api (.databases z))
      (Databases.layout s.context.window)
  | .loadBalancer =>
    Collect.layouts s.api s.context.zones .loadBalancers (fun z => s.api (.loadBalancers z))
      (LoadBalancers.layout s.context.window)
  | .vpcRouter =>
    Collect.layouts s.api s.context.zones .vpcRouters (fun z => s.api (.vpcRouters z))
      (VpcRouters.layout s.context.window)
  | .nfs =>
    Collect.layouts s.api s.context.zones .nfsAppliances (fun z => s.api (.nfsAppliances z))
      (FileServers.layout s.context.window)
  | .internet =>
    Collect.layouts s.api s.context.zones .internets (fun z => s.api (.internets z))
      (Internets.layout s.context.window)
  | .autoBackup =>
    Collect.layouts s.api s.context.zones .autoBackups (fun z => s.api (.autoBackups z))
      AutoBackups.layout
  | .proxyLb =>
    Collect.layouts s.api [globalZone] .proxyLbs (fun z => s.api (.proxyLbs z))
      (ProxyLbs.layout s.context.window)
  | .bill => [[.untimed Bills.gauges]]
  | .coupon => [[.untimed Coupons.gauges]]

variable {k : Kind} {s : Setting}

theorem exists_laysOut {c : (α : Type) × Cycle s.context s.api α} (h : k.cycle? s = some c) :
    ∃ layout, c.2.LaysOut k.monitored layout ∧
      k.layouts s = Collect.layouts s.api c.2.zones c.2.call c.2.answer layout := by
  cases k <;> cases h
  · exact ⟨_,⟨Servers.batch_shows _ _,fun r => Servers.layout_separate r _,
      fun r => Servers.monitors_layout r _⟩,rfl⟩
  · exact ⟨_,⟨Databases.batch_shows _ _,fun r => Databases.layout_separate r _,
      fun r => Databases.monitors_layout r _⟩,rfl⟩
  · exact ⟨_,⟨LoadBalancers.batch_shows _ _,fun r => LoadBalancers.layout_separate r _,
      fun r => LoadBalancers.monitors_layout r _⟩,rfl⟩
  · exact ⟨_,⟨VpcRouters.batch_shows _ _,fun r => VpcRouters.layout_separate r _,
      fun r => VpcRouters.monitors_layout r _⟩,rfl⟩
  · exact ⟨_,⟨FileServers.batch_shows _ _,fun r => FileServers.layout_separate r _,
      fun r => FileServers.monitors_layout r _⟩,rfl⟩
  · exact ⟨_,⟨Internets.batch_shows _ _,fun r => Internets.layout_separate r _,
      fun _ => rfl⟩,rfl⟩
  · exact ⟨_,⟨AutoBackups.batch_shows _ _,fun _ => .of_untimed _,fun _ => rfl⟩,rfl⟩
  · exact ⟨_,⟨ProxyLbs.batch_shows _ _,fun r => ProxyLbs.layout_separate r _,
      fun r => ProxyLbs.monitors_layout r _⟩,rfl⟩

/-- What a run hands over and asks for is what its layouts say. -/
theorem collect_laysOut (k : Kind) (s : Setting) (schedule : Schedule) (caches : Caches) :
    (∃ batches : List Batch, List.Forall₂ (Displays s.api k.monitored) (k.layouts s) batches ∧
      (batches.filter (!·.isEmpty)).Perm (k.collect s schedule caches).journal.batches) ∧
    ((k.collect s schedule caches).journal.calls.filter Call.isMonitor).Perm
      ((k.layouts s).flatMap monitors) := by
  cases hc : k.cycle? s with
  | some c =>
    obtain ⟨layout,hl,he⟩ := exists_laysOut hc
    rw [k.collect_journal hc schedule caches,he]
    exact ⟨hl.batches schedule,hl.calls schedule⟩
  | none =>
    cases k with
    | bill =>
      rw [Kind.bill_journal]
      exact (Bills.collect_handsOver ..).laysOut (Bills.collect_consults ..) rfl
    | coupon =>
      rw [Kind.coupon_journal]
      exact (Coupons.collect_handsOver ..).laysOut (Coupons.collect_consults ..) rfl
    | _ => cases hc

end Kind

/-- A run of any kind hands over one batch for each layout. With at least two complete points a batch has
exactly one sample of every series of a monitor, under the instant of the one complete point that exactly
one other is newer than and from that point's numbers; with fewer, or when the monitor fails, it has none of
them. A database that follows no other one has no replication delay. All other samples are without an
instant, and of gauges that no monitor has. Every monitor that is asked for is in a layout, and only calls
that fail are recorded as failures, so points that are too few are not. -/
theorem monitor_series_show_settled_points (k : Kind) (s : Setting) (schedule : Schedule)
    (caches : Caches) :
    let j := (k.collect s schedule caches).journal
    (∃ batches : List Batch, List.Forall₂ (Displays s.api k.monitored) (k.layouts s) batches ∧
      (batches.filter (!·.isEmpty)).Perm j.batches) ∧
    (j.calls.filter Call.isMonitor).Perm ((k.layouts s).flatMap monitors) ∧
    (j.failures = if j.calls.any fun c => c.isListing && s.api.fails c then 1
      else j.calls.countP fun c => !c.isListing && s.api.fails c) ∧
    (∀ c points, Reports s.api c points → s.api.fails c = false) ∧
    (∀ w item b, item.resource.replicationRole ≠ "slave" →
      Displays s.api Databases.monitored (Databases.layout w item) b →
      samplesOf [Databases.replicationDelay] b = []) ∧
    (∀ api layout layout' b b' c series points, Displays s.api k.monitored layout b →
      Displays api k.monitored layout' b' → .monitor c series ∈ layout → .monitor c series ∈ layout' →
      Reports s.api c points → Reports api c points →
      ((completePoints c.required points).map instant?).Nodup →
      ∀ sr ∈ series, sr.samplesOf b = sr.samplesOf b') ∧
    ∀ c : Call, c.isMonitor = true → ∀ status body points, 200 ≤ status ∧ status < 300 →
      Call.decodeBody MonitorPoints.shape body = .ok points →
      s.api c = Client.outcome c (.answered status body) → Reports s.api c points := by
  intro j
  obtain ⟨hb,hc⟩ := k.collect_laysOut s schedule caches
  refine ⟨hb,hc,(k.collect_accounts s schedule caches).failures,fun c points h => h.fails,?_,?_,?_⟩
  · intro w item b hrole hd
    exact Databases.samplesOf_replicationDelay hrole hd
  · intro api layout layout' b b' c series points hs hs' hm hm' hr hr' hd
    exact hs.eq_of_reports hs' hm hm' hr hr' hd
  · intro c hm status body points hs hd ha
    obtain ⟨a,hp,ho⟩ := outcome_of_points hm hs hd
    exact ⟨points,a,.refl _,hp,ha.trans ho⟩

end CloudMetrics.Collect
