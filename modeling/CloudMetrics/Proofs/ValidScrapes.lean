import CloudMetrics.Proofs.Scrapes
import CloudMetrics.Proofs.TidyBatches
import CloudMetrics.Service.Site

/-!
# Scrapes are valid sample sets

Of clouds that do not answer with one resource, archive or coupon twice, every scrape has distinct series
in consistent families. The batches of the listed resources are told apart by zone and id, the kinds by
the names of their gauges; and as coupons may come out of a cache, that a cache holds none twice is kept
from scrape to scrape.
-/
namespace CloudMetrics

open Cloud Metrics Time

/-- What may not come twice in an answer: the ids of listed resources and of archives; of coupons, the id
with the member and the contract. -/
def Cloud.Call.keys : (c : Call) → c.Answer → List (List String)
  | .servers _, rs => rs.map fun r => [r.id]
  | .databases _, rs => rs.map fun r => [r.common.id]
  | .loadBalancers _, rs => rs.map fun r => [r.common.id]
  | .vpcRouters _, rs => rs.map fun r => [r.common.id]
  | .nfsAppliances _, rs => rs.map fun r => [r.common.id]
  | .internets _, rs => rs.map fun r => [r.id]
  | .autoBackups _, rs => rs.map fun r => [r.id]
  | .proxyLbs _, rs => rs.map fun r => [r.id]
  | .archives _ _, rs => rs.map fun r => [r.id]
  | .coupons _, rs => rs.map Collect.Coupons.key
  | _, _ => []

/-- A cloud without duplicates in what it lists. -/
def Cloud.Api.Distinct (api : Api) : Prop := ∀ c a, api c = .ok a → (c.keys a).Nodup

namespace Collect

theorem nodup_answered {α : Type} {answer : Except ApiError (List α)} {key : α → List String}
    (h : ∀ items, answer = .ok items → (items.map key).Nodup) :
    ((answer.toOption.getD []).map key).Nodup := by
  cases answer with
  | error e => exact List.nodup_nil
  | ok items => exact h items rfl

theorem Cycle.tidy_of_zones {ctx : Context} {api : Api} {α : Type} (c : Cycle ctx api α)
    {gauges : List Gauge} {id : α → String} (hz : c.zones.Nodup)
    (hd : ∀ z items, c.answer z = .ok items → (items.map fun a => [id a]).Nodup)
    (hb : ∀ r, Tidy gauges (place (id r.resource) r.zone) (c.batch r).value) :
    Tidy gauges [] (c.listed.flatMap fun r => (c.batch r).value) := by
  have hzones : (c.zones.map fun z => [z]).Nodup := hz.map List.singleton_injective
  rw [listed,Listing.resources,List.flatMap_assoc]
  refine Tidy.flatMap ["zone"] hzones (fun _ _ => rfl) fun z _ => ?_
  rw [List.flatMap_map]
  exact Tidy.flatMap ["id"] (nodup_answered (hd z)) (fun _ _ => rfl) fun a _ => hb ⟨z,a⟩

theorem Cycle.run_tidy {ctx : Context} {api : Api} {α : Type} (c : Cycle ctx api α)
    {gauges : List Gauge} (h : Tidy gauges [] (c.listed.flatMap fun r => (c.batch r).value))
    (schedule : Schedule) : Tidy gauges [] (c.run schedule).journal.batches.flatten := by
  cases hc : c.isComplete c.zones with
  | true =>
    have hp := (c.batches_perm schedule hc).flatten
    rw [← List.flatMap_def] at hp
    exact h.perm hp.symm
  | false =>
    rw [(c.run_of_not_isComplete schedule hc).2.batches]
    exact Tidy.nil

theorem ProxyLbs.listed_tidy (ctx : Context) {api : Api} (ha : api.Distinct) :
    Tidy gauges [] ((cycle ctx api).listed.flatMap fun r => (batch ctx api r).value) := by
  have hl : (cycle ctx api).listed =
      ((api (.proxyLbs globalZone)).toOption.getD []).map (⟨globalZone,·⟩) :=
    List.append_nil _
  rw [hl,List.flatMap_map]
  have hitems := nodup_answered (ha (.proxyLbs globalZone))
  exact Tidy.flatMap ["id"] hitems (fun _ _ => rfl) fun r _ => batch_tidy ⟨globalZone,r⟩ ctx api

/-- No coupon comes twice in the cache. -/
def Caches.Distinct (c : Caches) : Prop :=
  ∀ e ∈ c.coupons, (e.item.map Coupons.key).Nodup

theorem Context.store_cases {α : Type} (refresh : DailyRefresh) (now : Instant) (slot : Slot α) (fresh : α) :
    store refresh now slot fresh = slot ∨ ∃ expires, store refresh now slot fresh = some ⟨fresh,expires⟩ := by
  unfold store Slot.set
  dsimp only
  split
  · next hs =>
    split at hs
    · cases hs
    · cases hs
      exact .inr ⟨_,rfl⟩
  · exact .inl rfl

/-- What holds of every answer, and of what a slot holds, holds of what is served and of what the slot
holds afterwards. -/
theorem Context.cached_forall (ctx : Context) (api : Api) (c : Call) (refresh : DailyRefresh)
    (now : Instant) {slot : Slot c.Answer} (stage : String) {P : c.Answer → Prop}
    (ha : ∀ a, api c = .ok a → P a) (hs : ∀ e ∈ slot, P e.item) :
    let served := (ctx.cached refresh now slot stage (.call api c)).value
    (∀ a ∈ served.value, P a) ∧ ∀ e ∈ served.slot, P e.item := by
  intro served
  have hserved : served = (ctx.cached refresh now slot stage (.call api c)).value := rfl
  unfold cached at hserved
  cases hg : slot.get now with
  | some hit =>
    obtain ⟨e,he,hit'⟩ := Option.bind_eq_some_iff.mp hg
    have hi : e.item = hit := by
      split at hit'
      · exact Option.some.inj hit'
      · cases hit'
    rw [hg] at hserved
    rw [hserved]
    exact ⟨fun a h => Option.some.inj h ▸ hi ▸ hs e he,hs⟩
  | none =>
    rw [hg,Run.bind_value,fetch_value,Run.call_value] at hserved
    cases hv : api c with
    | error e =>
      rw [hv] at hserved
      rw [hserved]
      exact ⟨fun _ h => absurd h (Option.not_mem_none _),hs⟩
    | ok fresh =>
      rw [hv] at hserved
      rw [hserved]
      refine ⟨fun a h => Option.some.inj h ▸ ha fresh hv,?_⟩
      intro e he
      rcases store_cases refresh now slot fresh with hst | ⟨expires,hst⟩
      · exact hs e (hst ▸ he)
      · have hen : some (⟨fresh,expires⟩ : Entry c.Answer) = some e := hst.symm.trans he
        obtain rfl := Option.some.inj hen
        exact ha fresh hv

theorem Coupons.collect_slot (ctx : Context) (account : String) (now : Instant) (api : Api)
    (slot : Slot (List Coupon)) : (collect ctx account now api slot).value =
      (ctx.cached .billing now slot "coupons" (.call api (.coupons account))).value.slot := by
  unfold collect
  rw [Run.bind_value]
  dsimp only
  split <;> rfl

theorem flatten_handed {V : Type} (o : Option V) (rows : V → Batch) :
    ((o.map rows).toList.filter (!·.isEmpty)).flatten = rowsOf o rows := by
  cases o with
  | none => rfl
  | some v =>
    change ([rows v].filter (!·.isEmpty)).flatten = rows v
    cases rows v with
    | nil => rfl
    | cons s b => exact List.append_nil _

namespace Kind

variable {k : Kind} {s : Setting} {caches : Caches}

theorem cycle_tidy {c : (α : Type) × Cycle s.context s.api α} (h : k.cycle? s = some c)
    (hz : s.context.zones.Nodup) (ha : s.api.Distinct) :
    Tidy k.gauges [] (c.2.listed.flatMap fun r => (c.2.batch r).value) := by
  cases k <;> cases h
  · exact Cycle.tidy_of_zones _ hz (fun z => ha (.servers z)) fun r => Servers.batch_tidy r _ _
  · exact Cycle.tidy_of_zones _ hz (fun z => ha (.databases z)) fun r => Databases.batch_tidy r _ _
  · exact Cycle.tidy_of_zones _ hz (fun z => ha (.loadBalancers z)) fun r => LoadBalancers.batch_tidy r _ _
  · exact Cycle.tidy_of_zones _ hz (fun z => ha (.vpcRouters z)) fun r => VpcRouters.batch_tidy r _ _
  · exact Cycle.tidy_of_zones _ hz (fun z => ha (.nfsAppliances z)) fun r => FileServers.batch_tidy r _ _
  · exact Cycle.tidy_of_zones _ hz (fun z => ha (.internets z)) fun r => Internets.batch_tidy r _ _
  · exact Cycle.tidy_of_zones _ hz (fun z => ha (.autoBackups z)) fun r =>
      AutoBackups.batch_tidy r _ _ fun archives => ha (.archives r.zone r.resource.id) archives
  · exact ProxyLbs.listed_tidy _ ha

/-- The batches of a run have no series twice. -/
theorem collect_tidy (k : Kind) (schedule : Schedule) (hz : s.context.zones.Nodup) (ha : s.api.Distinct)
    (hc : caches.Distinct) :
    Tidy k.gauges [] (k.collect s schedule caches).journal.batches.flatten := by
  cases hk : k.cycle? s with
  | some c =>
    rw [collect_journal hk]
    exact c.2.run_tidy (cycle_tidy hk hz ha) schedule
  | none =>
    cases k with
    | bill =>
      rw [bill_journal,Bills.collect_batches,flatten_handed]
      exact Tidy.rowsOf Bills.batch_tidy _
    | coupon =>
      have hserved := (s.context.cached_forall s.api (.coupons s.account) .billing s.now "coupons"
        (ha (.coupons s.account)) hc).1
      rw [coupon_journal,Coupons.collect_batches,flatten_handed]
      cases hv : (s.context.cached .billing s.now caches.coupons "coupons"
        (.call s.api (.coupons s.account))).value.value with
      | none => exact Tidy.nil
      | some coupons => exact Coupons.batch_tidy (hserved coupons hv) s.now
    | _ => cases hk

/-- A run keeps the caches free of duplicates. -/
theorem collect_caches (k : Kind) (schedule : Schedule) (ha : s.api.Distinct) (hc : caches.Distinct) :
    (k.collect s schedule caches).value.Distinct := by
  cases k with
  | coupon =>
    intro e he
    have hslot := (Coupons.collect_slot s.context s.account s.now s.api caches.coupons).symm.trans he
    exact (s.context.cached_forall s.api (.coupons s.account) .billing s.now "coupons"
      (ha (.coupons s.account)) hc).2 e hslot
  | _ => exact hc

end Kind

namespace Kind

def bytes (s : String) : List UInt8 := s.toByteArray.data.toList

/-- How the names of a kind's gauges begin. -/
def stem (k : Kind) : List UInt8 := bytes ("sakuracloud_" ++ k.name ++ "_")

theorem stem_isPrefix {k : Kind} {g : Gauge} : g ∈ k.gauges → k.stem <+: bytes g.name := by
  revert g
  cases k <;> decide

theorem eq_of_stem_isPrefix {k k' : Kind} : k.stem <+: k'.stem → k = k' := by
  cases k <;> cases k' <;> decide

theorem labels_nodup {k : Kind} {g : Gauge} : g ∈ k.gauges → g.labels.Nodup := by
  revert g
  cases k <;> decide

theorem apart {k k' : Kind} (h : k ≠ k') : Apart k.gauges k'.gauges := by
  intro g hg g' hg' hn
  have hk := stem_isPrefix hg
  rw [hn] at hk
  rcases List.prefix_or_prefix_of_prefix hk (stem_isPrefix hg') with hp | hp
  · exact h (eq_of_stem_isPrefix hp)
  · exact h (eq_of_stem_isPrefix hp).symm

theorem nodup_names (k : Kind) : (k.gauges.map Gauge.name).Nodup := by
  cases k <;> decide

theorem eq_of_name_eq {k k' : Kind} {g g' : Gauge} (hg : g ∈ k.gauges) (hg' : g' ∈ k'.gauges)
    (hn : g.name = g'.name) : g = g' := by
  by_cases hk : k = k'
  · subst hk
    exact List.inj_on_of_nodup_map (nodup_names k) hg hg' hn
  · exact absurd hn (apart hk g hg g' hg')

theorem tidy_flatMap {ks : List Kind} (hk : ks.Nodup) {f : Kind → Batch}
    (h : ∀ k ∈ ks, Tidy k.gauges [] (f k)) : Tidy (ks.flatMap gauges) [] (ks.flatMap f) := by
  induction ks with
  | nil => exact Tidy.nil
  | cons k ks ih =>
    rw [List.nodup_cons] at hk
    have hrest := ih hk.2 fun k' hk' => h k' (List.mem_cons_of_mem _ hk')
    refine (h k List.mem_cons_self).append hrest fun g hg g' hg' => ?_
    obtain ⟨k',hm,hg'⟩ := List.mem_flatMap.mp hg'
    have hne : k ≠ k' := fun he => hk.1 (he ▸ hm)
    exact apart hne g hg g' hg'

end Kind

namespace Caches

theorem distinct_after {caches : Caches} (hc : caches.Distinct) {runs : List KindRun}
    (hr : ∀ r ∈ runs, r.run.value.Distinct) : (caches.after runs).Distinct := by
  induction runs generalizing caches with
  | nil => exact hc
  | cons r runs ih =>
    have hrest : ∀ r' ∈ runs, r'.run.value.Distinct := fun r' h => hr r' (List.mem_cons_of_mem _ h)
    have hvalue := hr r List.mem_cons_self
    obtain ⟨k,run⟩ := r
    cases k with
    | coupon =>
      have hstored : ({ caches with coupons := run.value.coupons } : Caches).Distinct := hvalue
      exact ih hstored hrest
    | bill =>
      have hkept : ({ caches with bills := run.value.bills } : Caches).Distinct := hc
      exact ih hkept hrest
    | _ => exact ih hc hrest

end Caches

namespace CollectorSet

variable (s : CollectorSet) (schedule : ScrapeSchedule) (now : Instant) {api : Api} {caches : Caches}

theorem scrape_tidy (hk : s.kinds.Nodup) (hz : s.zones.Nodup) (ha : api.Distinct) (hc : caches.Distinct) :
    Tidy (s.kinds.flatMap Kind.gauges) [] (s.scrape schedule now api caches).samples := by
  have hkinds := Kind.tidy_flatMap hk fun k _ =>
    k.collect_tidy (s := s.setting k now api) (schedule.within k) hz ha hc
  exact hkinds.perm (s.scrape_samples schedule now api caches).symm

theorem scrape_caches (ha : api.Distinct) (hc : caches.Distinct) :
    (s.scrape schedule now api caches).caches.Distinct := by
  refine Caches.distinct_after hc fun r hr => ?_
  obtain ⟨k,-,rfl⟩ := List.mem_map.mp ((schedule.kinds.arrange_perm _).mem_iff.mp hr)
  exact k.collect_caches (s := s.setting k now api) (schedule.within k) ha hc

/-- The caches after scrapes at some moments, the first one first. -/
def cachesAfter (moments : List Service.Moment) : Caches :=
  moments.foldl (fun caches m => (s.scrape m.schedule m.now m.api caches).caches) {}

theorem cachesAfter_distinct {moments : List Service.Moment} (ha : ∀ m ∈ moments, m.api.Distinct) :
    (s.cachesAfter moments).Distinct := by
  induction moments using List.reverseRecOn with
  | nil => exact fun e he => absurd he (Option.not_mem_none e)
  | append_singleton moments m ih =>
    rw [cachesAfter,List.foldl_append]
    apply s.scrape_caches m.schedule m.now (ha m (by simp))
    exact ih fun m' hm => ha m' (List.mem_append_left _ hm)

end CollectorSet

/-- In a scrape of clouds without duplicates in what they list, after any scrapes of such clouds, no two
samples have the same name and the same labels. Samples of one name have the same help and the same names
of labels, in the same order. Every sample is of a gauge of an enabled kind, whose labels are different
and get a value each. -/
theorem scrape_is_valid (disabled : List String) {zones : List String} (hz : zones.Nodup)
    (account : String) {earlier : List Service.Moment} (he : ∀ m ∈ earlier, m.api.Distinct)
    {m : Service.Moment} (hm : m.api.Distinct) :
    let s := CollectorSet.build disabled zones account
    let samples := (s.scrape m.schedule m.now m.api (s.cachesAfter earlier)).samples
    (samples.map Sample.series).Nodup ∧
    (∀ a ∈ samples, ∀ b ∈ samples, a.name = b.name →
      a.help = b.help ∧ a.labels.map (·.1) = b.labels.map (·.1)) ∧
    ∀ a ∈ samples, (a.labels.map (·.1)).Nodup ∧ ∃ k ∈ s.kinds, ∃ g ∈ k.gauges, a.Fills g := by
  intro s samples
  have ht : Tidy (s.kinds.flatMap Kind.gauges) [] samples :=
    s.scrape_tidy m.schedule m.now (Kind.nodup_enabled disabled) hz hm (s.cachesAfter_distinct he)
  have hgauge : ∀ a ∈ samples, ∃ k ∈ s.kinds, ∃ g ∈ k.gauges, a.Fills g := by
    intro a ha
    obtain ⟨g,hg,hf⟩ := ht.fills a ha
    obtain ⟨k,hk,hg⟩ := List.mem_flatMap.mp hg
    exact ⟨k,hk,g,hg,hf⟩
  refine ⟨ht.distinct,?_,?_⟩
  · intro a ha b hb hn
    obtain ⟨k,-,g,hg,hfa⟩ := hgauge a ha
    obtain ⟨k',-,g',hg',hfb⟩ := hgauge b hb
    have hgg : g = g' := by
      apply Kind.eq_of_name_eq hg hg'
      rw [← hfa.name_eq,← hfb.name_eq,hn]
    subst hgg
    exact ⟨hfa.help_eq.trans hfb.help_eq.symm,hfa.names_of_labels.trans hfb.names_of_labels.symm⟩
  · intro a ha
    obtain ⟨k,hk,g,hg,hf⟩ := hgauge a ha
    refine ⟨?_,k,hk,g,hg,hf⟩
    rw [hf.names_of_labels]
    exact Kind.labels_nodup hg

/-- In every zone a server of one id, whose interfaces and whose disks cannot be told apart; and two coupons
of one id. -/
def twinParts : Api
  | .servers _ => .ok [{ id := "1", interfaces := [{},{}], disks := [{},{}] }]
  | .coupons _ => .ok [{ id := "1", memberId := "1" },{ id := "1", memberId := "2" }]
  | c => .error (.transport c.path)

theorem distinct_twinParts : twinParts.Distinct := by
  intro c a h
  cases c with
  | servers zone =>
    cases h
    exact List.nodup_singleton _
  | coupons account =>
    cases h
    change [["1","1",""],["1","2",""]].Nodup
    decide
  | _ => cases h

/-- Two zones with alike servers, whose interfaces and disks have rows of their own. -/
theorem scrape_is_valid_of_twin_parts :
    let s := CollectorSet.build [] ["is1a","is1b"] "1"
    let m : Service.Moment := { now := .epoch, api := twinParts }
    let samples := (s.scrape m.schedule m.now m.api (s.cachesAfter [m])).samples
    ["is1a","is1b"].Nodup ∧ twinParts.Distinct ∧
    samples.length = 16 ∧ (samples.map Sample.series).Nodup := by
  intro s m samples
  have hz : ["is1a","is1b"].Nodup := by decide
  have he : ∀ m' ∈ [m], m'.api.Distinct := by
    intro m' hm
    rw [List.mem_singleton.mp hm]
    exact distinct_twinParts
  have hv := scrape_is_valid [] hz "1" he (m := m) distinct_twinParts
  have hn : samples.length = 16 := by
    decide +kernel
  exact ⟨hz,distinct_twinParts,hn,hv.1⟩

end Collect

end CloudMetrics
