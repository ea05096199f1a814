import CloudMetrics.Collect.Scrape
import CloudMetrics.Proofs.FailureAccounts
import CloudMetrics.Proofs.RequestPlan
import Mathlib.Data.List.Nodup

/-!
# Scrapes of several kinds

The kinds of a scrape share a queue, a list of zones and a cloud, and yet each fares as if it were alone.
A scrape is the union of the scrapes of its kinds, up to order; and a kind's listings are no concern of any
other kind, whatever they are answered with.
-/
namespace CloudMetrics.Collect

open Cloud Metrics Time

namespace Kind

theorem enabled_eq_filter (disabled : List String) :
    enabled disabled = all.filter fun k => !disabled.contains k.name := by
  have h : ∀ ks : List Kind,
      (ks.flatMap fun k => if disabled.any (· == k.name) then [] else [k]) =
        ks.filter fun k => !disabled.contains k.name := by
    intro ks
    induction ks with
    | nil => rfl
    | cons k ks ih =>
      rw [List.flatMap_cons,ih,List.filter_cons,List.contains_eq_any_beq]
      have hc : (disabled.any (· == k.name)) = disabled.any (k.name == ·) :=
        congrArg disabled.any (funext fun d => BEq.comm)
      rw [hc]
      cases disabled.any (k.name == ·) <;> rfl
  rw [← h,enabled]
  simp only [all,List.flatMap_cons,List.flatMap_nil,List.append_nil,List.append_assoc]

theorem nodup_all : all.Nodup := by decide

theorem nodup_enabled (disabled : List String) : (enabled disabled).Nodup := by
  rw [enabled_eq_filter]
  exact nodup_all.filter _

/-- To disable one more kind is to leave it out. -/
theorem enabled_cons (k : Kind) (disabled : List String) :
    enabled (k.name :: disabled) = (enabled disabled).filter (· ≠ k) := by
  rw [enabled_eq_filter,enabled_eq_filter,List.filter_filter]
  refine List.filter_congr fun k' _ => ?_
  have hn : (k'.name == k.name) = decide (k' = k) := by
    rw [Bool.eq_iff_iff,beq_iff_eq,decide_eq_true_iff]
    exact ⟨name_injective,congrArg name⟩
  rw [List.contains_cons,hn]
  by_cases h : k' = k <;> simp [h]

end Kind

/-- Journals that differ in the order of their calls and batches, and in what is logged. -/
structure Journal.Alike (a b : Journal) : Prop where
  calls : a.calls.Perm b.calls
  failures : a.failures = b.failures
  faults : a.faults = b.faults
  counted : a.counted = b.counted
  batches : a.batches.Perm b.batches

theorem Journal.Alike.refl (j : Journal) : j.Alike j := ⟨.refl _,rfl,rfl,rfl,.refl _⟩

/-- What is told about failures hangs on which calls were made, in any order. -/
theorem Journal.Accounts.alike {collector : String} {api : Api} {a b : Journal}
    (ha : a.Accounts collector api) (hb : b.Accounts collector api) (hc : a.calls.Perm b.calls)
    (hbs : a.batches.Perm b.batches) : a.Alike b := by
  have hf : a.failures = b.failures := by
    rw [ha.failures,hb.failures,expectedFailures,expectedFailures,hc.any_eq,hc.countP_eq]
  refine ⟨hc,hf,?_,?_,hbs⟩
  · have hr : a.faults.rejected = b.faults.rejected := by
      rw [ha.rejected,hb.rejected,hc.countP_eq]
    have hu : a.faults.unavailable = b.faults.unavailable := by
      rw [ha.unavailable,hb.unavailable,hc.countP_eq]
    have he : ∀ f g : Faults, f.rejected = g.rejected → f.unavailable = g.unavailable → f = g := by
      rintro ⟨_,_⟩ ⟨_,_⟩ rfl rfl
      rfl
    exact he _ _ hr hu
  · rw [ha.counted,hb.counted,hf]

theorem Cycle.run_batches_perm {ctx : Context} {api : Api} {α : Type} (c : Cycle ctx api α)
    (schedule schedule' : Schedule) :
    (c.run schedule).journal.batches.Perm (c.run schedule').journal.batches := by
  cases h : c.isComplete c.zones with
  | true => exact (c.batches_perm schedule h).trans (c.batches_perm schedule' h).symm
  | false =>
    rw [(c.run_of_not_isComplete schedule h).2.batches,(c.run_of_not_isComplete schedule' h).2.batches]

/-- However the tasks of a kind complete, its run comes to the same. -/
theorem Kind.collect_alike (k : Kind) (s : Setting) (schedule schedule' : Schedule) (caches : Caches) :
    (k.collect s schedule caches).journal.Alike (k.collect s schedule' caches).journal := by
  cases hc : k.cycle? s with
  | some c =>
    have hk : k.lists = true := by cases k <;> first | rfl | cases hc
    refine (k.collect_accounts s schedule caches).alike (k.collect_accounts s schedule' caches) ?_ ?_
    · exact (k.collect_calls_perm hk s schedule caches).trans
        (k.collect_calls_perm hk s schedule' caches).symm
    · rw [k.collect_journal hc,k.collect_journal hc]
      exact c.2.run_batches_perm schedule schedule'
  | none =>
    cases k with
    | bill | coupon => exact .refl _
    | _ => cases hc

/-- The kind that a listing is made for. -/
def lister? : Call → Option Kind
  | .servers _ => some .server
  | .databases _ => some .database
  | .loadBalancers _ => some .loadBalancer
  | .vpcRouters _ => some .vpcRouter
  | .nfsAppliances _ => some .nfs
  | .internets _ => some .internet
  | .autoBackups _ => some .autoBackup
  | .proxyLbs _ => some .proxyLb
  | _ => none

theorem isListing_of_lister? {c : Call} {k : Kind} (h : lister? c = some k) : c.isListing = true := by
  cases c <;> first | rfl | cases h

theorem Kind.lister?_of_mem {k : Kind} {zones : List String} {c : Call} (h : c ∈ k.listings zones) :
    lister? c = some k := by
  cases k with
  | proxyLb =>
    rw [List.mem_singleton.mp h]
    rfl
  | bill | coupon => exact absurd h List.not_mem_nil
  | _ =>
    obtain ⟨z,-,rfl⟩ := List.mem_map.mp h
    rfl

/-- The cloud when no listing is answered. -/
def unlisted (api : Api) : Api := fun c => if c.isListing then .error (.transport c.path) else api c

section
variable {api api' : Api}

/-- What never looks at a listing is the same for clouds that answer all else alike. -/
theorem eq_of_unlisted {β : Type} {f : Api → β} (hf : ∀ api, f (unlisted api) = f api)
    (h : ∀ c, c.isListing = false → api' c = api c) : f api' = f api := by
  have hu : unlisted api' = unlisted api := by
    funext c
    unfold unlisted
    split
    · rfl
    · next hc => exact h c (Bool.eq_false_iff.mpr hc)
  rw [← hf api',hu,hf]

theorem callZone_congr {c : Call} (h : api' c = api c) : Run.callZone api' c = Run.callZone api c := by
  rw [Run.callZone,Run.callZone,Run.ask,Run.ask,h]

theorem collectEach_congr {α : Type} {ctx : Context} {schedule : Schedule} {zones : List String}
    {list list' : String → Run (Outcome (List α))} {enrich enrich' : Zoned α → Run Batch}
    (hl : ∀ z, list' z = list z) (he : ∀ r, enrich' r = enrich r) :
    ctx.collectEach schedule zones list' enrich' = ctx.collectEach schedule zones list enrich := by
  rw [funext hl,funext he]

end

/-- A run looks at the listings of its kind and at no others. -/
theorem Kind.collect_congr {k : Kind} {s : Setting} {api : Api}
    (hl : ∀ c, lister? c = some k → api c = s.api c)
    (hi : ∀ c, c.isListing = false → api c = s.api c) (schedule : Schedule) (caches : Caches) :
    k.collect { s with api } schedule caches = k.collect s schedule caches := by
  have listed : ∀ {x x' : Run Unit}, x' = x →
      (do x'; return caches : Run Caches) = (do x; return caches) := by
    rintro x x' rfl
    rfl
  cases k with
  | server =>
    refine listed (collectEach_congr (fun z => callZone_congr (hl _ rfl)) fun r => ?_)
    exact eq_of_unlisted (f := fun api => Servers.batch s.context api r) (fun _ => rfl) hi
  | database =>
    refine listed (collectEach_congr (fun z => callZone_congr (hl _ rfl)) fun r => ?_)
    exact eq_of_unlisted (f := fun api => Databases.batch s.context api r) (fun _ => rfl) hi
  | loadBalancer =>
    refine listed (collectEach_congr (fun z => callZone_congr (hl _ rfl)) fun r => ?_)
    exact eq_of_unlisted (f := fun api => LoadBalancers.batch s.context api r) (fun _ => rfl) hi
  | vpcRouter =>
    refine listed (collectEach_congr (fun z => callZone_congr (hl _ rfl)) fun r => ?_)
    exact eq_of_unlisted (f := fun api => VpcRouters.batch s.context api r) (fun _ => rfl) hi
  | nfs =>
    refine listed (collectEach_congr (fun z => callZone_congr (hl _ rfl)) fun r => ?_)
    exact eq_of_unlisted (f := fun api => FileServers.batch s.context api r) (fun _ => rfl) hi
  | internet =>
    refine listed (collectEach_congr (fun z => callZone_congr (hl _ rfl)) fun r => ?_)
    exact eq_of_unlisted (f := fun api => Internets.batch s.context api r) (fun _ => rfl) hi
  | autoBackup =>
    refine listed (collectEach_congr (fun z => callZone_congr (hl _ rfl)) fun r => ?_)
    exact eq_of_unlisted (f := fun api => AutoBackups.batch s.context api r) (fun _ => rfl) hi
  | proxyLb =>
    refine listed (collectEach_congr (fun z => callZone_congr (hl _ rfl)) fun r => ?_)
    exact eq_of_unlisted (f := fun api => ProxyLbs.batch s.context api r) (fun _ => rfl) hi
  | bill =>
    exact eq_of_unlisted (f := fun api => Kind.bill.collect { s with api } schedule caches)
      (fun _ => rfl) hi
  | coupon =>
    exact eq_of_unlisted (f := fun api => Kind.coupon.collect { s with api } schedule caches)
      (fun _ => rfl) hi

/-- What a scrape gives is what some runs left behind, up to order. -/
structure ScrapeOutcome.Gathers (o : ScrapeOutcome) (runs : List KindRun) : Prop where
  samples : o.samples.Perm (runs.flatMap fun r => r.run.journal.batches.flatten)
  reports : o.reports.Perm (runs.map KindRun.report)
  counted : o.counted.Perm (runs.flatMap fun r => r.run.journal.counted)
  calls : o.calls.Perm (runs.flatMap fun r => r.run.journal.calls)

/-- What several scrapes give together, up to order. -/
structure ScrapeOutcome.IsUnion (o : ScrapeOutcome) (parts : List ScrapeOutcome) : Prop where
  samples : o.samples.Perm (parts.flatMap (·.samples))
  reports : o.reports.Perm (parts.flatMap (·.reports))
  counted : o.counted.Perm (parts.flatMap (·.counted))
  calls : o.calls.Perm (parts.flatMap (·.calls))

theorem perm_flatMap_map {α β γ δ : Type} {f : β → List δ} {g : γ → List δ} {run : α → β}
    {part : α → γ} {xs : List δ} {ks : List α} (hx : xs.Perm ((ks.map run).flatMap f))
    (h : ∀ k, (g (part k)).Perm (([run k]).flatMap f)) : xs.Perm ((ks.map part).flatMap g) := by
  rw [List.flatMap_map] at hx ⊢
  refine hx.trans (.flatMap_left _ fun k _ => ?_)
  have hk := (h k).symm
  rwa [List.flatMap_singleton] at hk

/-- Runs may be gathered one by one. -/
theorem ScrapeOutcome.Gathers.isUnion {o : ScrapeOutcome} {α : Type} {ks : List α} {run : α → KindRun}
    {part : α → ScrapeOutcome} (ho : o.Gathers (ks.map run)) (h : ∀ k, (part k).Gathers [run k]) :
    o.IsUnion (ks.map part) := by
  refine ⟨perm_flatMap_map ho.samples fun k => (h k).samples,?_,
    perm_flatMap_map ho.counted fun k => (h k).counted,perm_flatMap_map ho.calls fun k => (h k).calls⟩
  have hr := ho.reports
  rw [List.map_eq_flatMap] at hr
  exact perm_flatMap_map hr fun k => (h k).reports

namespace CollectorSet

variable (s : CollectorSet) (schedule : ScrapeSchedule) (now : Instant) (api : Api) (caches : Caches)

/-- The set of one kind alone. -/
def only (k : Kind) : CollectorSet := { s with kinds := [k] }

def runOf (k : Kind) : KindRun := ⟨k,k.collect (s.setting k now api) (schedule.within k) caches⟩

theorem runs_flatMap_perm {β : Type} (f : KindRun → List β) :
    ((schedule.kinds.arrange (s.runs schedule now api caches)).flatMap f).Perm
      (s.kinds.flatMap fun k => f (s.runOf schedule now api caches k)) := by
  refine ((schedule.kinds.arrange_perm _).flatMap_right f).trans (.of_eq ?_)
  rw [runs,List.flatMap_map]
  rfl

theorem scrape_calls : (s.scrape schedule now api caches).calls.Perm
    (s.kinds.flatMap fun k => (s.runOf schedule now api caches k).run.journal.calls) :=
  s.runs_flatMap_perm schedule now api caches fun r => r.run.journal.calls

theorem scrape_counted : (s.scrape schedule now api caches).counted.Perm
    (s.kinds.flatMap fun k => (s.runOf schedule now api caches k).run.journal.counted) :=
  s.runs_flatMap_perm schedule now api caches fun r => r.run.journal.counted

theorem scrape_reports : (s.scrape schedule now api caches).reports.Perm
    (s.kinds.flatMap fun k => [(s.runOf schedule now api caches k).report]) := by
  have h := s.runs_flatMap_perm schedule now api caches fun r => [r.report]
  rwa [← List.map_eq_flatMap] at h

/-- One report of each kind. -/
theorem scrape_kinds : ((s.scrape schedule now api caches).reports.map Report.kind).Perm s.kinds := by
  have h := (s.scrape_reports schedule now api caches).map Report.kind
  rw [List.map_flatMap] at h
  have hid : (s.kinds.flatMap fun k => [k]) = s.kinds :=
    List.map_eq_flatMap.symm.trans (List.map_id s.kinds)
  exact h.trans (.of_eq hid)

theorem scrape_samples : (s.scrape schedule now api caches).samples.Perm
    (s.kinds.flatMap fun k => (s.runOf schedule now api caches k).run.journal.batches.flatten) := by
  have hq := (schedule.queue.arrange_perm
    ((schedule.kinds.arrange (s.runs schedule now api caches)).flatMap fun r =>
      r.run.journal.batches)).flatten
  refine hq.trans ?_
  rw [← List.flatMap_id,List.flatMap_assoc]
  simp only [List.flatMap_id]
  exact s.runs_flatMap_perm schedule now api caches fun r => r.run.journal.batches.flatten

/-- However the tasks of each kind complete in runs of its own. -/
theorem scrape_gathers (own : Kind → Schedule) : (s.scrape schedule now api caches).Gathers
    (s.kinds.map fun k => ⟨k,k.collect (s.setting k now api) (own k) caches⟩) := by
  have halike (k : Kind) := k.collect_alike (s.setting k now api) (schedule.within k) (own k) caches
  constructor
  case samples =>
    rw [List.flatMap_map]
    refine (s.scrape_samples schedule now api caches).trans (.flatMap_left _ fun k _ => ?_)
    exact (halike k).batches.flatten
  case reports =>
    rw [List.map_map,List.map_eq_flatMap]
    refine (s.scrape_reports schedule now api caches).trans (.of_eq (List.flatMap_congr fun k _ => ?_))
    rw [Function.comp_apply,KindRun.report,KindRun.report,(halike k).failures.symm,(halike k).faults.symm]
    rfl
  case counted =>
    rw [List.flatMap_map]
    refine (s.scrape_counted schedule now api caches).trans (.of_eq (List.flatMap_congr fun k _ => ?_))
    exact (halike k).counted
  case calls =>
    rw [List.flatMap_map]
    refine (s.scrape_calls schedule now api caches).trans (.flatMap_left _ fun k _ => ?_)
    exact (halike k).calls

/-- However the scrape and the scrapes of its kinds alone are scheduled. -/
theorem scrape_isUnion (alone : Kind → ScrapeSchedule) : (s.scrape schedule now api caches).IsUnion
    (s.kinds.map fun k => (s.only k).scrape (alone k) now api caches) :=
  (s.scrape_gathers schedule now api caches schedule.within).isUnion fun k =>
    (s.only k).scrape_gathers (alone k) now api caches schedule.within

/-- A kind alone is not concerned with the listings of another kind. -/
theorem only_scrape_congr {k k' : Kind} (hk : k' ≠ k) {api api' : Api}
    (h : ∀ c, c ∉ k.listings s.zones → api' c = api c) :
    (s.only k').scrape schedule now api' caches = (s.only k').scrape schedule now api caches := by
  have hl : ∀ c, lister? c = some k' → api' c = api c := by
    intro c hc
    refine h c fun hm => hk ?_
    rw [Kind.lister?_of_mem hm] at hc
    exact (Option.some.inj hc).symm
  have hi : ∀ c, c.isListing = false → api' c = api c := by
    intro c hc
    refine h c fun hm => ?_
    rw [isListing_of_lister? (Kind.lister?_of_mem hm)] at hc
    exact Bool.false_ne_true hc.symm
  have hr : (s.only k').runs schedule now api' caches = (s.only k').runs schedule now api caches :=
    congrArg (fun run => [KindRun.mk k' run])
      (Kind.collect_congr (s := (s.only k').setting k' now api) hl hi _ caches)
  rw [scrape,scrape,hr]

end CollectorSet

/-- The set that is built holds the kinds that are not disabled, in their order and once each. A scrape of
it has one report of each, and is the union of the scrapes that each makes alone of the same cloud. These
give what the runs of the kinds leave behind, in whatever order the tasks of a run complete: their samples,
their failures and faults as reports, what they count and what they call. To disable one more kind leaves
the union of the others. To answer the listings of a kind in other ways changes the scrape that this kind
makes alone, and that of no other kind. -/
theorem scrape_is_union_of_its_kinds (disabled zones : List String) (account : String)
    (schedule : ScrapeSchedule) (alone : Kind → ScrapeSchedule) (now : Instant) (api : Api)
    (caches : Caches) :
    let s := CollectorSet.build disabled zones account
    let solo := fun (api : Api) k => (s.only k).scrape (alone k) now api caches
    s.names = (Kind.all.map Kind.name).filter (fun name => !disabled.contains name) ∧ s.names.Nodup ∧
    ((s.scrape schedule now api caches).reports.map Report.kind).Perm s.kinds ∧
    (s.scrape schedule now api caches).IsUnion (s.kinds.map (solo api)) ∧
    (∀ own : Kind → Schedule,
      let run := fun k => KindRun.mk k (k.collect (s.setting k now api) (own k) caches)
      (s.scrape schedule now api caches).Gathers (s.kinds.map run) ∧ ∀ k, (solo api k).Gathers [run k]) ∧
    (∀ k, ((CollectorSet.build (k.name :: disabled) zones account).scrape schedule now api
      caches).IsUnion ((s.kinds.filter (· ≠ k)).map (solo api))) ∧
    ∀ k api', (∀ c, c ∉ k.listings zones → api' c = api c) →
      (∀ k', k' ≠ k → solo api' k' = solo api k') ∧
      (s.scrape schedule now api' caches).IsUnion
        (s.kinds.map fun k' => if k' = k then solo api' k else solo api k') := by
  intro s solo
  have hkinds : s.kinds = Kind.enabled disabled := rfl
  refine ⟨?_,?_,s.scrape_kinds schedule now api caches,s.scrape_isUnion schedule now api caches alone,
    ?_,?_,?_⟩
  · rw [CollectorSet.names,hkinds,Kind.enabled_eq_filter,List.filter_map]
    rfl
  · rw [CollectorSet.names,hkinds]
    exact List.Nodup.map (fun _ _ h => Kind.name_injective h) (Kind.nodup_enabled disabled)
  · intro own
    exact ⟨s.scrape_gathers schedule now api caches own,fun k =>
      (s.only k).scrape_gathers (alone k) now api caches own⟩
  · intro k
    have h := (CollectorSet.build (k.name :: disabled) zones account).scrape_isUnion schedule now api
      caches alone
    have hk : (CollectorSet.build (k.name :: disabled) zones account).kinds = s.kinds.filter (· ≠ k) :=
      Kind.enabled_cons k disabled
    rw [hk] at h
    exact h
  · intro k api' ha
    have hsolo : ∀ k', k' ≠ k → solo api' k' = solo api k' := fun k' hk =>
      s.only_scrape_congr (alone k') now caches hk ha
    refine ⟨hsolo,?_⟩
    have h := s.scrape_isUnion schedule now api' caches alone
    have hm : (s.kinds.map fun k' => if k' = k then solo api' k else solo api k') =
        s.kinds.map (solo api') := by
      refine List.map_congr_left fun k' _ => ?_
      split
      · next he => rw [he]
      · next hne => exact (hsolo k' hne).symm
    rw [hm]
    exact h

end CloudMetrics.Collect
