import CloudMetrics.Proofs.Gauges
import CloudMetrics.Proofs.Pages
import CloudMetrics.Proofs.Scrapes
import CloudMetrics.Service.Site

/-!
# What a site reports

After a scrape, the health of the cloud and of the collectors is what this scrape says, whatever was said
before; and the counters have grown by its failures before the page is written. No other visit changes
anything, so what a site reports is up to the last scrape.
-/
namespace CloudMetrics

open Cloud Metrics Time

namespace Collect

/-- Faults that are noted run by run are those of all calls together. -/
theorem faults_of_runs {api : Api} (runs : List KindRun)
    (h : ∀ r ∈ runs, r.run.journal.NotesFaults api) (f : Faults) :
    let calls := runs.flatMap fun r => r.run.journal.calls
    let total := (runs.map KindRun.report).foldl (fun f r => f.merge r.faults) f
    total.rejected = f.rejected + calls.countP api.rejects ∧
      total.unavailable = f.unavailable + calls.countP api.breaksDown := by
  induction runs generalizing f with
  | nil => exact ⟨rfl,rfl⟩
  | cons r runs ih =>
    have hr := h r List.mem_cons_self
    obtain ⟨hrejected,hunavailable⟩ := ih (fun r' hm => h r' (List.mem_cons_of_mem _ hm))
      (f.merge r.report.faults)
    simp only [List.map_cons,List.foldl_cons,List.flatMap_cons,List.countP_append]
    constructor
    · rw [hrejected,Faults.merge_rejected,KindRun.report,hr.rejected]
      omega
    · rw [hunavailable,Faults.merge_unavailable,KindRun.report,hr.unavailable]
      omega

/-- Of names that are repeated for each kind, each kind has its own. -/
theorem count_names {kinds : List Kind} (hd : kinds.Nodup) (n : Kind → Nat) {k : Kind} (hk : k ∈ kinds) :
    (kinds.flatMap fun k => List.replicate (n k) k.name).count k.name = n k := by
  induction kinds with
  | nil => exact absurd hk List.not_mem_nil
  | cons k' kinds ih =>
    obtain ⟨hn,hd⟩ := List.nodup_cons.mp hd
    rw [List.flatMap_cons,List.count_append,List.count_replicate]
    rcases List.mem_cons.mp hk with rfl | hk
    · have hz : (kinds.flatMap fun k => List.replicate (n k) k.name).count k.name = 0 := by
        refine List.count_eq_zero.mpr fun hm => ?_
        obtain ⟨k',hk',hm⟩ := List.mem_flatMap.mp hm
        have he : k = k' := Kind.name_injective (List.eq_of_mem_replicate hm)
        exact hn (he ▸ hk')
      rw [hz,beq_self_eq_true,if_pos rfl]
      omega
    · have hne : (k'.name == k.name) = false := by
        refine beq_eq_false_iff_ne.mpr fun he => hn ?_
        rw [Kind.name_injective he]
        exact hk
      rw [hne,if_neg Bool.false_ne_true,ih hd hk]
      omega

namespace CollectorSet

variable (s : CollectorSet) (schedule : ScrapeSchedule) (now : Instant) (api : Api) (caches : Caches)

theorem runOf_accounts (k : Kind) :
    (s.runOf schedule now api caches k).run.journal.Accounts k.name api :=
  k.collect_accounts (s.setting k now api) (schedule.within k) caches

theorem exists_runOf_of_mem {r : KindRun} (h : r ∈ schedule.kinds.arrange (s.runs schedule now api caches)) :
    ∃ k ∈ s.kinds, s.runOf schedule now api caches k = r :=
  List.mem_map.mp ((schedule.kinds.arrange_perm _).mem_iff.mp h)

theorem exists_report_of_mem {r : Report} (h : r ∈ (s.scrape schedule now api caches).reports) :
    ∃ k ∈ s.kinds, (s.runOf schedule now api caches k).report = r := by
  obtain ⟨run,hm,rfl⟩ := List.mem_map.mp h
  obtain ⟨k,hk,rfl⟩ := s.exists_runOf_of_mem schedule now api caches hm
  exact ⟨k,hk,rfl⟩

/-- The faults of all reports are what the calls of the scrape came to. -/
theorem scrape_faults :
    let o := s.scrape schedule now api caches
    o.faults.rejected = o.calls.countP api.rejects ∧
      o.faults.unavailable = o.calls.countP api.breaksDown := by
  intro o
  have hruns : ∀ r ∈ schedule.kinds.arrange (s.runs schedule now api caches),
      r.run.journal.NotesFaults api := by
    intro r hr
    obtain ⟨k,-,rfl⟩ := s.exists_runOf_of_mem schedule now api caches hr
    exact (s.runOf_accounts schedule now api caches k).toNotesFaults
  obtain ⟨hrejected,hunavailable⟩ := faults_of_runs _ hruns {}
  exact ⟨hrejected.trans (Nat.zero_add _),hunavailable.trans (Nat.zero_add _)⟩

/-- The error counter of a kind is increased once for each failure that is reported of it. -/
theorem count_counted (hd : s.kinds.Nodup) (r : Report)
    (h : r ∈ (s.scrape schedule now api caches).reports) :
    (s.scrape schedule now api caches).counted.count r.kind.name = r.failures := by
  obtain ⟨k,hk,rfl⟩ := s.exists_report_of_mem schedule now api caches h
  have hc : (s.kinds.flatMap fun k => (s.runOf schedule now api caches k).run.journal.counted) =
      s.kinds.flatMap fun k =>
        List.replicate (s.runOf schedule now api caches k).run.journal.failures k.name :=
    List.flatMap_congr fun k _ => (s.runOf_accounts schedule now api caches k).counted
  rw [(s.scrape_counted schedule now api caches).count_eq,hc]
  exact count_names hd _ hk

theorem count_counted_of_not_mem (name : String) (h : name ∉ s.names) :
    (s.scrape schedule now api caches).counted.count name = 0 := by
  rw [(s.scrape_counted schedule now api caches).count_eq]
  refine List.count_eq_zero.mpr fun hm => h ?_
  obtain ⟨k,hk,hm⟩ := List.mem_flatMap.mp hm
  rw [(s.runOf_accounts schedule now api caches k).counted] at hm
  rw [List.eq_of_mem_replicate hm]
  exact List.mem_map_of_mem hk

theorem scrape_names : ((s.scrape schedule now api caches).reports.map (·.kind.name)).Perm s.names := by
  have h := (s.scrape_kinds schedule now api caches).map Kind.name
  rwa [List.map_map] at h

theorem scrape_samples_named : ∀ x ∈ (s.scrape schedule now api caches).samples, x.name ≠ "" := by
  intro x hx
  obtain ⟨k,-,hx⟩ := List.mem_flatMap.mp ((s.scrape_samples schedule now api caches).mem_iff.mp hx)
  obtain ⟨b,hb,hx⟩ := List.mem_flatten.mp hx
  obtain ⟨g,hg,hn⟩ := Kind.collect_named _ _ k _ b hb x hx
  rw [← hn]
  exact Kind.name_ne_empty_of_mem_gauges hg

end CollectorSet

end Collect

namespace Service

open Collect

namespace Counters

def bumpAll (names : List String) (counts : List (String × Nat)) : List (String × Nat) :=
  names.foldl (fun counts name => bump name counts) counts

theorem lookup_bumpAll (names : List String) (counts : List (String × Nat)) (name : String) :
    (bumpAll names counts).lookup name =
      if name ∈ names then some ((counts.lookup name).getD 0 + names.count name)
      else counts.lookup name := by
  induction names generalizing counts with
  | nil => rfl
  | cons n names ih =>
    have hb : (bump n counts).lookup name =
        if name = n then some ((counts.lookup n).getD 0 + 1) else counts.lookup name :=
      Json.lookup_put ..
    have hs := ih (bump n counts)
    rw [hb] at hs
    rw [bumpAll,List.foldl_cons]
    refine hs.trans ?_
    by_cases he : name = n
    · subst he
      rw [if_pos rfl,List.count_cons_self,if_pos List.mem_cons_self]
      by_cases hm : name ∈ names
      · rw [if_pos hm,Option.getD_some]
        congr 1
        omega
      · rw [if_neg hm,List.count_eq_zero.mpr hm]
    · rw [if_neg he,List.count_cons_of_ne (Ne.symm he)]
      by_cases hm : name ∈ names
      · rw [if_pos hm,if_pos (List.mem_cons_of_mem _ hm)]
      · rw [if_neg hm,if_neg fun h => (List.mem_cons.mp h).elim he hm]

theorem getD_lookup_bumpAll (names : List String) (counts : List (String × Nat)) (name : String) :
    ((bumpAll names counts).lookup name).getD 0 = (counts.lookup name).getD 0 + names.count name := by
  rw [lookup_bumpAll]
  by_cases hm : name ∈ names
  · rw [if_pos hm,Option.getD_some]
  · rw [if_neg hm,List.count_eq_zero.mpr hm]
    omega

theorem failAll_eq (c : Counters) (names : List String) :
    c.failAll names = { c with errors := bumpAll names c.errors } := by
  induction names generalizing c with
  | nil => rfl
  | cons n names ih => exact ih (c.fail n)

theorem observeAll_eq (c : Counters) (names : List String) :
    names.foldl observe c = { c with durations := bumpAll names c.durations } := by
  induction names generalizing c with
  | nil => rfl
  | cons n names ih => exact ih (c.observe n)

theorem name_ne_empty_of_mem_families {c : Counters} {f : Family} (h : f ∈ c.families) : f.name ≠ "" := by
  rcases List.mem_append.mp h with h | h
  · obtain ⟨v,-,rfl⟩ := Option.map_eq_some_iff.mp (Option.mem_toList.mp h)
    have hn : "sakuracloud_exporter_build_info" ≠ "" := by decide
    exact hn
  · split at h
    · exact absurd h List.not_mem_nil
    · rw [List.mem_singleton.mp h]
      have hn : "sakuracloud_exporter_errors_total" ≠ "" := by decide
      exact hn

/-- The line that shows the errors of a collector. -/
def totalLine (collector : String) (n : Nat) : String :=
  "sakuracloud_exporter_errors_total\x7bcollector=\"" ++ collector ++ "\"\x7d "
    ++ Decimal.text (Float.ofNat n)

theorem escape_name (k : Kind) : escapeWith escapeValue k.name = k.name := by cases k <;> decide

theorem labelsText_of_name (k : Kind) :
    labelsText [("collector",k.name)] = "\x7bcollector=\"" ++ k.name ++ "\"\x7d" := by
  rw [labelsText,List.map_singleton,labelText,escape_name,String.intercalate_singleton,
    ← String.toList_inj]
  simp

theorem text_of_total (k : Kind) (n : Nat) :
    Line.text "sakuracloud_exporter_errors_total" ⟨[("collector",k.name)],Float.ofNat n,0⟩ =
      totalLine k.name n ++ "\n" := by
  have hlabels := labelsText_of_name k
  unfold Line.text totalLine
  generalize Decimal.text (Float.ofNat n) = value
  rw [hlabels,← String.toList_inj]
  simp

/-- Each collector with a total has a line with it. -/
theorem hasLine {c : Counters} {k : Kind} {n : Nat} (h : c.errors.lookup k.name = some n) :
    ∃ f ∈ c.families, HasLine f.text (totalLine k.name n) := by
  have hm : (k.name,n) ∈ c.errors := by
    obtain ⟨l₁,l₂,he,-⟩ := List.lookup_eq_some_iff.mp h
    rw [he]
    exact List.mem_append_right _ List.mem_cons_self
  have hne : c.errors.isEmpty = false := by
    cases he : c.errors with
    | nil =>
      rw [he] at hm
      exact absurd hm List.not_mem_nil
    | cons _ _ => rfl
  refine ⟨errorFamily c.errors,?_,Family.hasLine ?_ (text_of_total k n)⟩
  · rw [families,hne]
    exact List.mem_append_right _ List.mem_cons_self
  · exact List.mem_map.mpr ⟨_,List.mem_mergeSort.mpr hm,rfl⟩

end Counters

namespace Health

theorem component?_set (h : Health) (name name' : String) (c : Component) :
    (h.set name c).component? name' = if name' = name then some c else h.component? name' :=
  Json.lookup_put ..

def recordAll (h : Health) (reports : List Report) (now : Instant) : Health :=
  reports.foldl (fun h r => h.recordCollection r.kind.name r.failures now) h

theorem component?_recordAll_of_ne {reports : List Report} {name : String}
    (hn : ∀ r ∈ reports, r.kind.name ≠ name) (h : Health) (now : Instant) :
    (h.recordAll reports now).component? name = h.component? name := by
  induction reports generalizing h with
  | nil => rfl
  | cons r reports ih =>
    have hr := hn r List.mem_cons_self
    rw [recordAll,List.foldl_cons]
    refine (ih (fun r' hm => hn r' (List.mem_cons_of_mem _ hm)) _).trans ?_
    rw [recordCollection,component?_set,if_neg hr.symm]

/-- Each collector has the status of its report. -/
theorem component?_recordAll {reports : List Report} (hd : (reports.map (·.kind.name)).Nodup)
    {r : Report} (hr : r ∈ reports) (h : Health) (now : Instant) :
    (h.recordAll reports now).component? r.kind.name = some (collectionComponent r.failures now) := by
  induction reports generalizing h with
  | nil => exact absurd hr List.not_mem_nil
  | cons r' reports ih =>
    rw [List.map_cons] at hd
    obtain ⟨hn,hd⟩ := List.nodup_cons.mp hd
    rw [recordAll,List.foldl_cons]
    rcases List.mem_cons.mp hr with rfl | hr
    · have hne : ∀ r' ∈ reports, r'.kind.name ≠ r.kind.name := by
        intro r' hm he
        exact hn (List.mem_map.mpr ⟨r',hm,he⟩)
      refine (component?_recordAll_of_ne hne _ now).trans ?_
      rw [recordCollection,component?_set,if_pos rfl]
    · exact ih hd hr _

theorem status_apiComponent (f : Faults) (now : Instant) : (apiComponent f now).status =
    if 0 < f.rejected then .unhealthy else if 0 < f.unavailable then .degraded else .healthy := by
  unfold apiComponent
  split
  · rfl
  · split <;> rfl

theorem status_collectionComponent (failures : Nat) (now : Instant) :
    (collectionComponent failures now).status = if failures = 0 then .healthy else .degraded := by
  unfold collectionComponent
  split <;> rfl

end Health

theorem name_ne_apiName (k : Kind) : k.name ≠ Health.apiName := by cases k <;> decide

namespace Site

def visit (s : Site) (v : Visit) : Exchange := s.answer v.moment v.method v.target

/-- The status of a component. -/
def status? (s : Site) (name : String) : Option Status := (s.health.component? name).map (·.status)

end Site

/-- What a site that was `s` shows for a scrape `o`. -/
structure Exchange.Shows (e : Exchange) (s : Site) (api : Api) (o : ScrapeOutcome) : Prop where
  scrape : e.scrape = some o
  kinds : (o.reports.map Report.kind).Perm s.collectors.kinds
  upstream : e.site.status? Health.apiName = some
    (if o.calls.any api.rejects then .unhealthy
      else if o.calls.any api.breaksDown then .degraded else .healthy)
  collectors : ∀ r ∈ o.reports,
    e.site.status? r.kind.name = some (if r.failures = 0 then .healthy else .degraded)
  errors : ∀ r ∈ o.reports,
    e.site.counters.errorsOf r.kind.name = s.counters.errorsOf r.kind.name + r.failures
  durations : ∀ r ∈ o.reports,
    e.site.counters.durationsOf r.kind.name = s.counters.durationsOf r.kind.name + 1
  /-- Of everything else, nothing changes. -/
  others : ∀ name, name ∉ s.collectors.names →
    (name ≠ Health.apiName → e.site.health.component? name = s.health.component? name) ∧
    e.site.counters.errorsOf name = s.counters.errorsOf name ∧
    e.site.counters.durationsOf name = s.counters.durationsOf name
  served : e.response.status = 200
  /-- A collector has a line once it has been taken up or has failed. -/
  totals : ∀ r ∈ o.reports, (s.counters.errors.lookup r.kind.name).isSome = true ∨ r.failures ≠ 0 →
    HasLine e.response.body
      (Counters.totalLine r.kind.name (s.counters.errorsOf r.kind.name + r.failures))

namespace Site

variable (s : Site)

theorem metricsPage_of_named {samples : List Sample} (h : ∀ x ∈ samples, x.name ≠ "") :
    s.metricsPage samples = ⟨200,some "text/plain; version=0.0.4",
      String.join ((families samples ++ s.counters.families).map Family.text)⟩ := by
  rw [metricsPage,expose_of_named h fun f => Counters.name_ne_empty_of_mem_families]

section
variable (o : ScrapeOutcome) (now : Instant)

theorem afterScrape_errors : (s.afterScrape o now).counters.errors =
    Counters.bumpAll o.counted s.counters.errors := by
  rw [afterScrape,Counters.observeAll_eq,Counters.failAll_eq]

theorem afterScrape_durations : (s.afterScrape o now).counters.durations =
    Counters.bumpAll (o.reports.map (·.kind.name)) s.counters.durations := by
  rw [afterScrape,Counters.observeAll_eq,Counters.failAll_eq]

theorem afterScrape_component? (name : String) : (s.afterScrape o now).health.component? name =
    if name = Health.apiName then some (Health.apiComponent o.faults now)
    else (s.health.recordAll o.reports now).component? name :=
  Health.component?_set ..

theorem afterScrape_errorsOf (name : String) : (s.afterScrape o now).counters.errorsOf name =
    s.counters.errorsOf name + o.counted.count name := by
  rw [Counters.errorsOf,afterScrape_errors,Counters.getD_lookup_bumpAll]
  rfl

theorem afterScrape_durationsOf (name : String) : (s.afterScrape o now).counters.durationsOf name =
    s.counters.durationsOf name + (o.reports.map (·.kind.name)).count name := by
  rw [Counters.durationsOf,afterScrape_durations,Counters.getD_lookup_bumpAll]
  rfl

/-- A total that has grown, or was there before, is there afterwards. -/
theorem lookup_afterScrape_errors {name : String}
    (h : (s.counters.errors.lookup name).isSome = true ∨ o.counted.count name ≠ 0) :
    (s.afterScrape o now).counters.errors.lookup name =
      some (s.counters.errorsOf name + o.counted.count name) := by
  rw [afterScrape_errors,Counters.lookup_bumpAll]
  by_cases hm : name ∈ o.counted
  · rw [if_pos hm]
    rfl
  · have hz := List.count_eq_zero.mpr hm
    rcases h with h | h
    · obtain ⟨n,hn⟩ := Option.isSome_iff_exists.mp h
      rw [if_neg hm,Counters.errorsOf,hn,hz]
      rfl
    · exact absurd hz h

end

/-- A visit to the metrics shows one scrape. -/
theorem serve_metrics_shows (hd : s.collectors.kinds.Nodup) (m : Moment) :
    (s.serve m .metrics).Shows s m.api (s.collectors.scrape m.schedule m.now m.api s.caches) := by
  have hfaults := s.collectors.scrape_faults m.schedule m.now m.api s.caches
  have hnamed := s.collectors.scrape_samples_named m.schedule m.now m.api s.caches
  have hkinds := s.collectors.scrape_kinds m.schedule m.now m.api s.caches
  have hnames := s.collectors.scrape_names m.schedule m.now m.api s.caches
  have hcount := s.collectors.count_counted m.schedule m.now m.api s.caches hd
  have hcount' := s.collectors.count_counted_of_not_mem m.schedule m.now m.api s.caches
  have hnd : s.collectors.names.Nodup := hd.map fun _ _ h => Kind.name_injective h
  have hrd := hnames.nodup_iff.mpr hnd
  rw [serve]
  generalize s.collectors.scrape m.schedule m.now m.api s.caches = o at *
  have hany : ∀ p : Call → Bool, 0 < o.calls.countP p ↔ o.calls.any p = true := by
    intro p
    rw [List.countP_pos_iff,List.any_eq_true]
  constructor
  case scrape => rfl
  case kinds => exact hkinds
  case upstream =>
    rw [status?,afterScrape_component?,if_pos rfl,Option.map_some,Health.status_apiComponent,hfaults.1,
      hfaults.2]
    simp only [hany]
  case collectors =>
    intro r hr
    rw [status?,afterScrape_component?,if_neg (name_ne_apiName r.kind),
      Health.component?_recordAll hrd hr,Option.map_some,Health.status_collectionComponent]
  case errors =>
    intro r hr
    rw [afterScrape_errorsOf,hcount r hr]
  case durations =>
    intro r hr
    rw [afterScrape_durationsOf,List.count_eq_one_of_mem hrd (List.mem_map_of_mem hr)]
  case others =>
    intro name hn
    have hm : name ∉ o.reports.map (·.kind.name) := fun hm => hn (hnames.mem_iff.mp hm)
    refine ⟨fun hne => ?_,?_,?_⟩
    · rw [afterScrape_component?,if_neg hne]
      refine Health.component?_recordAll_of_ne (fun r hr he => hm ?_) _ _
      exact List.mem_map.mpr ⟨r,hr,he⟩
    · rw [afterScrape_errorsOf,hcount' name hn]
      rfl
    · rw [afterScrape_durationsOf,List.count_eq_zero.mpr hm]
      rfl
  case served => rw [metricsPage_of_named _ hnamed]
  case totals =>
    intro r hr hsome
    rw [← hcount r hr] at hsome ⊢
    obtain ⟨f,hf,hline⟩ := Counters.hasLine (s.lookup_afterScrape_errors o m.now hsome)
    rw [metricsPage_of_named _ hnamed]
    exact hline.join (List.mem_map_of_mem (List.mem_append_right _ hf))

/-- Who visits another page, or none, changes nothing. -/
theorem visit_of_ne_metrics {v : Visit} (h : pageAt? s.pattern v.target ≠ some .metrics) :
    (s.visit v).site = s ∧ (s.visit v).scrape = none := by
  rw [visit,answer]
  cases hp : pageAt? s.pattern v.target with
  | none => exact ⟨rfl,rfl⟩
  | some page =>
    cases page with
    | metrics => exact absurd hp h
    | _ => cases v.method <;> exact ⟨rfl,rfl⟩

theorem visit_keeps (v : Visit) :
    (s.visit v).site.collectors = s.collectors ∧ (s.visit v).site.pattern = s.pattern := by
  rw [visit,answer]
  cases pageAt? s.pattern v.target with
  | none => exact ⟨rfl,rfl⟩
  | some page => cases page <;> cases v.method <;> exact ⟨rfl,rfl⟩

/-- The site after some visits. -/
def afterVisits (visits : List Visit) : Site := visits.foldl (fun s v => (s.visit v).site) s

theorem afterVisits_keeps (visits : List Visit) :
    (s.afterVisits visits).collectors = s.collectors ∧ (s.afterVisits visits).pattern = s.pattern := by
  induction visits generalizing s with
  | nil => exact ⟨rfl,rfl⟩
  | cons v visits ih =>
    obtain ⟨hc,hp⟩ := s.visit_keeps v
    obtain ⟨hc',hp'⟩ := ih (s.visit v).site
    exact ⟨hc'.trans hc,hp'.trans hp⟩

theorem afterVisits_of_ne_metrics {visits : List Visit}
    (h : ∀ v ∈ visits, pageAt? s.pattern v.target ≠ some .metrics) : s.afterVisits visits = s := by
  induction visits with
  | nil => rfl
  | cons v visits ih =>
    have hv := (s.visit_of_ne_metrics (h v List.mem_cons_self)).1
    rw [afterVisits,List.foldl_cons,hv]
    exact ih fun v' hm => h v' (List.mem_cons_of_mem _ hm)

theorem afterVisits_append_cons (before : List Visit) (v : Visit) (after : List Visit) :
    s.afterVisits (before ++ v :: after) = ((s.afterVisits before).visit v).site.afterVisits after := by
  rw [afterVisits,List.foldl_append,List.foldl_cons]
  rfl

/-- Each visit meets the site that the visits before have left. -/
theorem answers_at (before : List Visit) (v : Visit) (after : List Visit) :
    (s.answers (before ++ v :: after))[before.length]? = some ((s.afterVisits before).visit v) := by
  induction before generalizing s with
  | nil => rfl
  | cons w before ih => exact ih (s.visit w).site

/-- After each `get` of the metrics, a site shows the scrape of this visit, whatever it was before; and it
goes on to do so while other pages are visited. A `get` of anything else scrapes nothing and changes
nothing. Clocks, clouds and orders of completion may differ between visits. -/
theorem shows_last_scrape (disabled zones : List String) (account source : String) (start : Site)
    (before : List Visit) (m : Moment) (target : String) (after : List Visit) :
    let s : Site :=
      { start with collectors := { CollectorSet.build disabled zones account with source } }
    let t := s.afterVisits before
    let v : Visit := ⟨m,.get,target⟩
    (s.answers (before ++ v :: after))[before.length]? = some (t.visit v) ∧
    t.collectors = s.collectors ∧
    (pageAt? s.pattern target = some .metrics →
      (t.visit v).Shows t m.api (t.collectors.scrape m.schedule m.now m.api t.caches) ∧
      ((∀ w ∈ after, pageAt? s.pattern w.target ≠ some .metrics) →
        s.afterVisits (before ++ v :: after) = (t.visit v).site)) ∧
    (pageAt? s.pattern target ≠ some .metrics →
      (t.visit v).site = t ∧ (t.visit v).scrape = none) := by
  intro s t v
  obtain ⟨hcollectors,hpattern⟩ := s.afterVisits_keeps before
  have hd : t.collectors.kinds.Nodup := by
    rw [hcollectors]
    exact Kind.nodup_enabled disabled
  have hpage : pageAt? t.pattern v.target = pageAt? s.pattern target :=
    congrArg (fun pattern => pageAt? pattern target) hpattern
  refine ⟨s.answers_at before v after,hcollectors,?_,?_⟩
  · intro hm
    have hserve : t.visit v = t.serve m .metrics := by rw [Site.visit,Site.answer,hpage,hm]
    refine ⟨?_,fun hafter => ?_⟩
    · rw [hserve]
      exact t.serve_metrics_shows hd m
    · have hkeeps := (t.visit_keeps v).2.trans hpattern
      rw [s.afterVisits_append_cons]
      refine (t.visit v).site.afterVisits_of_ne_metrics fun w hw => ?_
      rw [hkeeps]
      exact hafter w hw
  · intro hm
    exact t.visit_of_ne_metrics fun h => hm (hpage.symm.trans h)

end Site

end Service

end CloudMetrics
