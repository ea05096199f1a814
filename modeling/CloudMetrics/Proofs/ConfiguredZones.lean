import CloudMetrics.Proofs.MergedSettings
import CloudMetrics.Proofs.ValidScrapes

/-!
# Configured zones

Settings that are loaded have zones, and none of them is empty or has blanks around it. Each entry of the
list is queried, so the zones are a set just when no zone was given twice, and a zone that was given twice
is scraped twice: only as a set they give each kind one listing a zone and each resource its own series.
-/
namespace CloudMetrics

open Cloud Metrics Time

namespace Collect.Kind

variable {k : Kind} {s : Setting}

theorem isListing_of_mem_listings {zones : List String} {c : Call} (h : c ∈ k.listings zones) :
    c.isListing = true := isListing_of_lister? (lister?_of_mem h)

theorem not_isListing_of_mem_inquiries (hk : k.lists = true) {c : Call} (h : c ∈ k.inquiries s) :
    c.isListing = false := by
  obtain ⟨cycle,hc⟩ := exists_cycle hk s
  rw [inquiries_eq hc] at h
  obtain ⟨r,-,hr⟩ := List.mem_flatMap.mp h
  exact cycle.2.isListing_plan r c hr

/-- A run lists once for each entry of its zones, whatever else it asks. -/
theorem listings_of_collect (hk : k.lists = true) (s : Setting) (schedule : Schedule) (caches : Caches) :
    ((k.collect s schedule caches).journal.calls.filter Call.isListing).Perm
      (k.listings s.context.zones) := by
  have hlistings : (k.listings s.context.zones).filter Call.isListing = k.listings s.context.zones :=
    List.filter_eq_self.mpr fun _ => isListing_of_mem_listings
  have hinquiries : (if (k.listings s.context.zones).any s.api.fails then [] else k.inquiries s).filter
      Call.isListing = [] := by
    rw [List.filter_eq_nil_iff]
    intro c hc
    split at hc
    · exact absurd hc List.not_mem_nil
    · simp [not_isListing_of_mem_inquiries hk hc]
  have hp := (k.collect_calls_perm hk s schedule caches).filter Call.isListing
  rwa [requests,List.filter_append,hlistings,hinquiries,List.append_nil] at hp

theorem nodup_listings (k : Kind) {zones : List String} (h : zones.Nodup) : (k.listings zones).Nodup := by
  have listed {call : String → Call} (hcall : Function.Injective call) : (zones.map call).Nodup :=
    h.map hcall
  cases k with
  | server => exact listed fun _ _ => Call.servers.inj
  | database => exact listed fun _ _ => Call.databases.inj
  | loadBalancer => exact listed fun _ _ => Call.loadBalancers.inj
  | vpcRouter => exact listed fun _ _ => Call.vpcRouters.inj
  | nfs => exact listed fun _ _ => Call.nfsAppliances.inj
  | internet => exact listed fun _ _ => Call.internets.inj
  | autoBackup => exact listed fun _ _ => Call.autoBackups.inj
  | proxyLb => exact List.nodup_singleton _
  | bill | coupon => exact List.nodup_nil

end Collect.Kind

namespace Config.Settings

open Collect

variable {files : String → Option String} {env : Environment} {f : Flags} {s : Settings}

/-- The zones as they are given: by the flags, or else by what is beneath them. -/
def givenZones (base : Settings) (f : Flags) : List String := if f.zones = [] then base.zones else f.zones

/-- What is collected with these settings. -/
def collectors (s : Settings) (account : String) : CollectorSet :=
  { CollectorSet.build s.disabledCollectors s.zones account with source := s.webaddr }

/-- Loaded zones are some, and each is tidy. They are a set unless a zone is given twice, perhaps with
other blanks around it. As a set they are listed once each by every kind that lists, and of clouds without
duplicates no series comes twice. -/
theorem configured_zones_are_distinct_iff (h : load files env f = .ok s) :
    s.zones ≠ [] ∧ (∀ z ∈ s.zones, z ≠ "" ∧ Text.IsTrimmed z) ∧
    (∃ base, beneath files env f = .ok base ∧
      (s.zones.Nodup ↔
        (givenZones base f).Pairwise fun a b => Text.trim a = Text.trim b → Text.trim a = "")) ∧
    (s.zones.Nodup → ∀ account now api caches,
      (∀ k : Kind, k.lists = true → ∀ schedule,
        ((k.collect ((s.collectors account).setting k now api) schedule caches).journal.calls.filter
            Call.isListing).Perm (k.listings s.zones) ∧ (k.listings s.zones).Nodup) ∧
      (api.Distinct → caches.Distinct → ∀ schedule,
        (((s.collectors account).scrape schedule now api caches).samples.map Sample.series).Nodup)) := by
  obtain ⟨base,hb,rfl,ha⟩ := exists_beneath_of_load h
  have hzones : (base.withFlags f).zones = tidyZones (givenZones base f) := withFlags_zones base f
  refine ⟨ha.zones,?_,⟨base,hb,?_⟩,?_⟩
  · intro z hz
    rw [hzones] at hz
    exact ⟨(mem_tidyZones.mp hz).2,isTrimmed_of_mem_tidyZones hz⟩
  · rw [hzones]
    exact nodup_tidyZones_iff
  · intro hd account now api caches
    refine ⟨fun k hk schedule => ⟨?_,k.nodup_listings hd⟩,fun hapi hcaches schedule => ?_⟩
    · exact k.listings_of_collect hk _ schedule caches
    · have ht := ((base.withFlags f).collectors account).scrape_tidy schedule now
        (Kind.nodup_enabled _) hd hapi hcaches
      exact ht.distinct

/-- Flags that give two zones with blanks around them, and one that is a blank. -/
def spacedZones : Flags := { token := some "t", secret := some "s", zones := [" is1a","tk1a\t"," "] }

theorem configured_zones_are_distinct_of_spaced :
    ∃ s, load (fun _ => none) [] spacedZones = .ok s ∧ s.zones = ["is1a","tk1a"] ∧
      twinParts.Distinct ∧
      (((s.collectors "1").scrape {} .epoch twinParts {}).samples.map Sample.series).Nodup := by
  have hload : load (fun _ => none) [] spacedZones =
      .ok { token := "t", secret := "s", zones := ["is1a","tk1a"] } := by decide +kernel
  obtain ⟨-,-,-,hset⟩ := configured_zones_are_distinct_iff hload
  have hcaches : ({} : Caches).Distinct := nofun
  exact ⟨_,hload,rfl,distinct_twinParts,
    (hset (by decide) "1" .epoch twinParts {}).2 distinct_twinParts hcaches {}⟩

/-- A zone that is given twice is kept twice, and then one server makes two series of one name and one list
of labels. -/
theorem a_zone_given_twice_is_scraped_twice :
    ∃ s, load (fun _ => none) [] { token := some "t", secret := some "s", zones := ["is1a","is1a"] } = .ok s ∧
      ¬s.zones.Nodup ∧ twinParts.Distinct ∧
      ¬(((s.collectors "1").scrape {} .epoch twinParts {}).samples.map Sample.series).Nodup := by
  have hload : load (fun _ => none) [] { token := some "t", secret := some "s", zones := ["is1a","is1a"] } =
      .ok { token := "t", secret := "s", zones := ["is1a","is1a"] } := by decide +kernel
  refine ⟨_,hload,by decide,distinct_twinParts,?_⟩
  decide +kernel

end Config.Settings

end CloudMetrics
