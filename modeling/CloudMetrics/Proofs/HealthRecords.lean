import CloudMetrics.Proofs.SiteReports
import Mathlib.Data.List.Induction

/-!
# What health is made of

Health is what some records have left, in whatever order they came: each component shows the last record
that wrote it. Only refused credentials make anything unhealthy, and they are recorded of the cloud's API
alone; so the two pages about health, which decide by different rules, agree once the service has started.
-/
namespace CloudMetrics.Service

open Collect Time

/-- One thing that is recorded about health. -/
inductive Record where
  | register (name : String) (now : Instant)
  | credentialsVerified (now : Instant)
  | faults (f : Faults) (now : Instant)
  | collection (collector : String) (failures : Nat) (now : Instant)
  | ready
deriving DecidableEq, Repr

namespace Record

/-- The component that is written, and what it is then. -/
def write? : Record → Option (String × Component)
  | .register name now => some (name,⟨.healthy,none,now⟩)
  | .credentialsVerified now => some (Health.apiName,⟨.healthy,none,now⟩)
  | .faults f now => some (Health.apiName,Health.apiComponent f now)
  | .collection collector failures now => some (collector,Health.collectionComponent failures now)
  | .ready => none

def target? (r : Record) : Option String := r.write?.map (·.1)

/-- The last record that wrote a component. -/
def last? (name : String) (records : List Record) : Option Record :=
  records.reverse.find? fun r => r.target? = some name

theorem last?_concat (name : String) (records : List Record) (r : Record) :
    last? name (records ++ [r]) = if r.target? = some name then some r else last? name records := by
  simp only [last?,List.reverse_append,List.reverse_singleton,List.singleton_append,List.find?_cons]
  by_cases h : r.target? = some name <;> simp [h]

theorem target?_of_last? {name : String} {records : List Record} {r : Record}
    (h : last? name records = some r) : r.target? = some name := by
  simpa using List.find?_some h

theorem isSome_last?_iff (name : String) (records : List Record) :
    (last? name records).isSome = true ↔ ∃ r ∈ records, r.target? = some name := by
  simp [last?,List.find?_isSome]

/-- The status that a record leaves its component in. -/
def status : Record → Status
  | .faults f _ => if 0 < f.rejected then .unhealthy else if 0 < f.unavailable then .degraded else .healthy
  | .collection _ failures _ => if failures = 0 then .healthy else .degraded
  | _ => .healthy

section
variable {r : Record} {name : String} {c : Component} (h : r.write? = some (name,c))

include h

theorem status_of_write : c.status = r.status := by
  cases r with
  | ready => cases h
  | register | credentialsVerified =>
    obtain ⟨-,rfl⟩ := Prod.mk.inj (Option.some.inj h)
    rfl
  | faults f now =>
    obtain ⟨-,rfl⟩ := Prod.mk.inj (Option.some.inj h)
    exact Health.status_apiComponent f now
  | collection collector failures now =>
    obtain ⟨-,rfl⟩ := Prod.mk.inj (Option.some.inj h)
    exact Health.status_collectionComponent failures now

/-- Nothing but refused credentials is written as unhealthy, and that of the API alone. -/
theorem unhealthy_iff : c.status = .unhealthy ↔ ∃ f now, r = .faults f now ∧ 0 < f.rejected := by
  rw [status_of_write h]
  cases r with
  | faults f now =>
    by_cases hr : 0 < f.rejected
    · simp [status,hr]
    · by_cases hu : 0 < f.unavailable <;> simp [status,hr,hu]
  | collection collector failures now => by_cases hf : failures = 0 <;> simp [status,hf]
  | register | credentialsVerified | ready => simp [status]

/-- Failures of a collector degrade it, and unanswered requests the API, unless some were refused. -/
theorem degraded_iff : c.status = .degraded ↔
    (∃ failures now, r = .collection name failures now ∧ 0 < failures) ∨
      ∃ f now, r = .faults f now ∧ f.rejected = 0 ∧ 0 < f.unavailable := by
  rw [status_of_write h]
  cases r with
  | faults f now =>
    by_cases hr : 0 < f.rejected
    · simp [status,hr,Nat.ne_of_gt hr]
    · by_cases hu : 0 < f.unavailable <;> simp [status,hu,Nat.eq_zero_of_not_pos hr]
  | collection collector failures now =>
    obtain ⟨rfl,-⟩ := Prod.mk.inj (Option.some.inj h)
    by_cases hf : failures = 0 <;> simp [status,hf,Nat.pos_iff_ne_zero]
  | register | credentialsVerified | ready => simp [status]

/-- A message says what is wrong, and only then. -/
theorem message_eq_none_iff : c.message = none ↔ c.status = .healthy := by
  cases r with
  | ready => cases h
  | register | credentialsVerified =>
    obtain ⟨-,rfl⟩ := Prod.mk.inj (Option.some.inj h)
    simp
  | faults f now =>
    obtain ⟨-,rfl⟩ := Prod.mk.inj (Option.some.inj h)
    unfold Health.apiComponent
    split
    · simp
    · split <;> simp
  | collection collector failures now =>
    obtain ⟨-,rfl⟩ := Prod.mk.inj (Option.some.inj h)
    unfold Health.collectionComponent
    split <;> simp

end

theorem eq_ready {r : Record} (h : r.write? = none) : r = .ready := by
  cases r <;> first | rfl | cases h

end Record

namespace Health

def apply (h : Health) : Record → Health
  | .register name now => h.register name now
  | .credentialsVerified now => h.credentialsVerified now
  | .faults f now => h.recordFaults f now
  | .collection collector failures now => h.recordCollection collector failures now
  | .ready => h.markReady

/-- The health after some records, the first one first. -/
def after (records : List Record) : Health := records.foldl apply {}

@[simp] theorem after_nil : after [] = {} := rfl

@[simp] theorem after_concat (records : List Record) (r : Record) :
    after (records ++ [r]) = (after records).apply r := by
  simp [after]

theorem after_append (records more : List Record) :
    after (records ++ more) = more.foldl apply (after records) := by
  simp [after]

theorem apply_of_write {h : Health} {r : Record} {name : String} {c : Component}
    (hw : r.write? = some (name,c)) : h.apply r = h.set name c := by
  cases r with
  | ready => cases hw
  | _ =>
    obtain ⟨rfl,rfl⟩ := Prod.mk.inj (Option.some.inj hw)
    rfl

theorem component?_apply (h : Health) (r : Record) (name : String) :
    (h.apply r).component? name =
      if r.target? = some name then r.write?.map (·.2) else h.component? name := by
  cases hw : r.write? with
  | none =>
    obtain rfl := Record.eq_ready hw
    rfl
  | some w =>
    have ht : r.target? = some w.1 := by simp [Record.target?,hw]
    rw [apply_of_write hw,component?_set,ht]
    by_cases hn : name = w.1
    · simp [hn]
    · have hn' : ¬w.1 = name := fun he => hn he.symm
      simp [hn,hn']

/-- A component is what its last record has made it. -/
theorem component?_after (records : List Record) (name : String) :
    (after records).component? name =
      (Record.last? name records).bind fun r => r.write?.map (·.2) := by
  induction records using List.reverseRecOn with
  | nil => rfl
  | append_singleton records r ih =>
    rw [after_concat,component?_apply,Record.last?_concat,ih]
    by_cases h : r.target? = some name <;> simp [h]

theorem nodup_put {names : List (String × Component)} (hd : (names.map (·.1)).Nodup) (name : String)
    (c : Component) : ((Json.put name c names).map (·.1)).Nodup := by
  have hmem : ∀ (key : String) (ms : List (String × Component)),
      key ∈ (Json.put name c ms).map (·.1) → key = name ∨ key ∈ ms.map (·.1) := by
    intro key ms
    induction ms with
    | nil => simp [Json.put]
    | cons m ms ih =>
      by_cases h : m.1 = name
      · simp [Json.put,h]
      · simp only [Json.put,if_neg h,List.map_cons,List.mem_cons]
        tauto
  induction names with
  | nil => simp [Json.put]
  | cons m names ih =>
    simp only [List.map_cons,List.nodup_cons] at hd
    by_cases h : m.1 = name
    · simpa only [Json.put,if_pos h,List.map_cons,List.nodup_cons] using h ▸ hd
    · have hn : m.1 ∉ (Json.put name c names).map (·.1) := by
        intro hm
        rcases hmem _ _ hm with he | hm
        · exact h he
        · exact hd.1 hm
      simpa only [Json.put,if_neg h,List.map_cons,List.nodup_cons] using ⟨hn,ih hd.2⟩

theorem nodup_components (records : List Record) : ((after records).components.map (·.1)).Nodup := by
  induction records using List.reverseRecOn with
  | nil => simp
  | append_singleton records r ih =>
    rw [after_concat]
    cases hw : r.write? with
    | none =>
      obtain rfl := Record.eq_ready hw
      exact ih
    | some w =>
      rw [apply_of_write hw]
      exact nodup_put ih w.1 w.2

/-- Among components of different names, look-up finds the one that is there. -/
theorem mem_components_iff {cs : List (String × Component)} (hd : (cs.map (·.1)).Nodup) (name : String)
    (c : Component) : (name,c) ∈ cs ↔ cs.lookup name = some c := by
  induction cs with
  | nil => simp
  | cons m cs ih =>
    simp only [List.map_cons,List.nodup_cons] at hd
    rw [Json.lookup_cons,List.mem_cons,ih hd.2]
    by_cases h : name = m.1
    · have hn : cs.lookup name ≠ some c := by
        intro hl
        have hm := (ih hd.2).mpr hl
        exact hd.1 (h ▸ List.mem_map_of_mem hm)
      obtain ⟨n,d⟩ := m
      simp only at h
      subst h
      simp [hn,eq_comm]
    · obtain ⟨n,d⟩ := m
      simp only at h
      simp [h]

theorem mem_after_iff (records : List Record) (name : String) (c : Component) :
    (name,c) ∈ (after records).components ↔
      ∃ r, Record.last? name records = some r ∧ r.write? = some (name,c) := by
  have hc := component?_after records name
  rw [mem_components_iff (nodup_components records)]
  rw [component?] at hc
  rw [hc]
  cases hl : Record.last? name records with
  | none => simp
  | some r =>
    have ht := Record.target?_of_last? hl
    cases hw : r.write? with
    | none => simp [hw]
    | some w =>
      obtain ⟨n,d⟩ := w
      have hn : n = name := by simpa [Record.target?,hw] using ht
      simp [hw,hn]

/-- The worst of some statuses and one more. -/
theorem worst_spec (cs : List (String × Component)) (s : Status) :
    let w := cs.foldl (fun s c => s.worse c.2.status) s
    s.rank ≤ w.rank ∧ (∀ c ∈ cs, c.2.status.rank ≤ w.rank) ∧ (w = s ∨ ∃ c ∈ cs, c.2.status = w) := by
  induction cs generalizing s with
  | nil => simp
  | cons c cs ih =>
    obtain ⟨hs,hcs,hw⟩ := ih (s.worse c.2.status)
    have hworse : s.rank ≤ (s.worse c.2.status).rank ∧ c.2.status.rank ≤ (s.worse c.2.status).rank ∧
        (s.worse c.2.status = s ∨ s.worse c.2.status = c.2.status) := by
      unfold Status.worse
      split
      · exact ⟨by omega,by omega,.inr rfl⟩
      · exact ⟨by omega,by omega,.inl rfl⟩
    simp only [List.foldl_cons]
    refine ⟨by omega,?_,?_⟩
    · intro d hd
      rcases List.mem_cons.mp hd with rfl | hd
      · omega
      · exact hcs d hd
    · rcases hw with hw | ⟨d,hd,hw⟩
      · rcases hworse.2.2 with he | he
        · exact .inl (hw.trans he)
        · exact .inr ⟨c,List.mem_cons_self,(hw.trans he).symm⟩
      · exact .inr ⟨d,List.mem_cons_of_mem _ hd,hw⟩

theorem rank_le_overall (h : Health) : ∀ c ∈ h.components, c.2.status.rank ≤ h.overall.rank :=
  (worst_spec h.components .healthy).2.1

theorem overall_mem (h : Health) : h.overall = .healthy ∨ ∃ c ∈ h.components, c.2.status = h.overall :=
  (worst_spec h.components .healthy).2.2

theorem overall_eq_unhealthy_iff (h : Health) :
    h.overall = .unhealthy ↔ ∃ c ∈ h.components, c.2.status = .unhealthy := by
  constructor
  · intro ho
    rcases h.overall_mem with hh | ⟨c,hc,hs⟩
    · rw [ho] at hh
      cases hh
    · exact ⟨c,hc,hs.trans ho⟩
  · rintro ⟨c,hc,hs⟩
    have hr := h.rank_le_overall c hc
    rw [hs] at hr
    generalize h.overall = o at hr
    cases o with
    | unhealthy => rfl
    | _ => simp [Status.rank] at hr

/-- The reachable-state invariant: no component but the API is ever unhealthy. -/
theorem overall_after_iff (records : List Record) :
    (after records).overall = .unhealthy ↔
      ∃ f now, Record.last? apiName records = some (.faults f now) ∧ 0 < f.rejected := by
  rw [overall_eq_unhealthy_iff]
  constructor
  · rintro ⟨⟨name,c⟩,hc,hs⟩
    obtain ⟨r,hl,hw⟩ := (mem_after_iff records name c).mp hc
    obtain ⟨f,now,rfl,hf⟩ := (Record.unhealthy_iff hw).mp hs
    have hn : apiName = name := (Prod.mk.inj (Option.some.inj hw)).1
    exact ⟨f,now,hn ▸ hl,hf⟩
  · rintro ⟨f,now,hl,hf⟩
    have hm := (mem_after_iff records apiName (apiComponent f now)).mpr ⟨_,hl,rfl⟩
    refine ⟨_,hm,?_⟩
    have hw : (Record.faults f now).write? = some (apiName,apiComponent f now) := rfl
    exact (Record.unhealthy_iff hw).mpr ⟨f,now,rfl,hf⟩

theorem status_api_iff (records : List Record) :
    ((after records).component? apiName).map (·.status) = some .unhealthy ↔
      (after records).overall = .unhealthy := by
  rw [overall_after_iff,component?_after]
  cases hl : Record.last? apiName records with
  | none => simp
  | some r =>
    have ht := Record.target?_of_last? hl
    cases hw : r.write? with
    | none => simp [Record.target?,hw] at ht
    | some w =>
      have hu := Record.unhealthy_iff (show r.write? = some (w.1,w.2) from hw)
      simpa [hw] using hu

theorem serving_after (records : List Record) : (after records).serving = true ↔ .ready ∈ records := by
  induction records using List.reverseRecOn with
  | nil => simp
  | append_singleton records r ih =>
    rw [after_concat,List.mem_append,List.mem_singleton,← ih]
    cases r <;> simp [apply,markReady,register,credentialsVerified,recordFaults,recordCollection,set]

theorem isReady_after (records : List Record) : (after records).isReady = true ↔
    .ready ∈ records ∧ (after records).overall ≠ .unhealthy := by
  have hs := serving_after records
  have hu := status_api_iff records
  rw [isReady,unreadiness?]
  cases hserving : (after records).serving with
  | false => simp [← hs,hserving]
  | true =>
    have hr : Record.ready ∈ records := hs.mp hserving
    by_cases ho : (after records).overall = .unhealthy
    · simp [hu.mpr ho,ho]
    · simp [mt hu.mp ho,ho,hr]

/-- The reason is part of what is reported exactly while the service is not ready. -/
theorem readinessJson_reason (h : Health) : h.readinessJson.field? "ready" = some (.bool h.isReady) ∧
    ((h.readinessJson.field? "reason").isSome = true ↔ h.isReady = false) := by
  cases hu : h.unreadiness? with
  | none => simp [readinessJson,isReady,hu,Json.field?,Json.member?,Json.lookup_cons]
  | some reason => simp [readinessJson,isReady,hu,Json.field?,Json.member?,Json.lookup_cons]

end Health

namespace Site

variable (s : Site)

/-- What a scrape records about health. -/
def scrapeRecords (o : ScrapeOutcome) (now : Instant) : List Record :=
  o.reports.map (fun r => .collection r.kind.name r.failures now) ++ [.faults o.faults now]

theorem afterScrape_health (o : ScrapeOutcome) (now : Instant) :
    (s.afterScrape o now).health = (scrapeRecords o now).foldl Health.apply s.health := by
  simp only [scrapeRecords,List.foldl_append,List.foldl_map]
  rfl

/-- A visit changes the health by records only. -/
theorem exists_records_of_visit (v : Visit) :
    ∃ more : List Record, (s.visit v).site.health = more.foldl Health.apply s.health := by
  by_cases h : pageAt? s.pattern v.target = some .metrics
  · rw [visit,answer,h]
    cases v.method with
    | get => exact ⟨_,s.afterScrape_health _ _⟩
    | head => exact ⟨_,s.afterScrape_health _ _⟩
    | other => exact ⟨[],rfl⟩
  · have hv := (s.visit_of_ne_metrics h).1
    rw [hv]
    exact ⟨[],rfl⟩

theorem exists_records_of_visits (visits : List Visit) :
    ∃ more : List Record, (s.afterVisits visits).health = more.foldl Health.apply s.health := by
  induction visits generalizing s with
  | nil => exact ⟨[],rfl⟩
  | cons v visits ih =>
    obtain ⟨first,hf⟩ := s.exists_records_of_visit v
    obtain ⟨rest,hr⟩ := ih (s.visit v).site
    refine ⟨first ++ rest,?_⟩
    rw [List.foldl_append,← hf]
    exact hr

theorem healthPage_status : s.healthPage.status = 200 ↔ s.health.overall ≠ .unhealthy := by
  cases h : s.health.overall <;> simp [healthPage,Response.json,h]

theorem readinessPage_status : s.readinessPage.status = 200 ↔ s.health.isReady = true := by
  cases h : s.health.isReady <;> simp [readinessPage,Response.json,h]

theorem answer_healthz (m : Moment) : (s.answer m .get "/healthz").response = s.healthPage := by
  have hp : pageAt? s.pattern "/healthz" = some .health := rfl
  rw [answer,hp]
  rfl

theorem answer_readyz (m : Moment) : (s.answer m .get "/readyz").response = s.readinessPage := by
  have hp : pageAt? s.pattern "/readyz" = some .readiness := rfl
  rw [answer,hp]
  rfl

end Site

/-- Whatever has been recorded, in whatever order: the components are those that some record wrote, each
once and as the last record that wrote it has left it. A component is unhealthy by refused credentials,
degraded by failures of its collector or by requests that were not answered, and else healthy and without
a message. The overall status is the worst of theirs, and it is
unhealthy exactly when the API was last written with refused credentials. The service is ready once it
has started and is not unhealthy, and gives a reason whenever it is not. A site that has started, and has
been visited in any way since, answers with 200 about its readiness exactly when it does about its health. -/
theorem health_is_of_last_records (records : List Record) :
    let h := Health.after records
    (h.components.map (·.1)).Nodup ∧
    (∀ name, name ∈ h.components.map (·.1) ↔ ∃ r ∈ records, r.target? = some name) ∧
    (∀ name c, (name,c) ∈ h.components ↔
      ∃ r, Record.last? name records = some r ∧ r.write? = some (name,c)) ∧
    (∀ name c, (name,c) ∈ h.components → ∃ r, Record.last? name records = some r ∧
      (c.status = .unhealthy ↔ ∃ f now, r = .faults f now ∧ 0 < f.rejected) ∧
      (c.status = .degraded ↔ (∃ failures now, r = .collection name failures now ∧ 0 < failures) ∨
        ∃ f now, r = .faults f now ∧ f.rejected = 0 ∧ 0 < f.unavailable) ∧
      (c.message = none ↔ c.status = .healthy)) ∧
    (∀ c ∈ h.components, c.2.status.rank ≤ h.overall.rank) ∧
    (h.overall = .healthy ∨ ∃ c ∈ h.components, c.2.status = h.overall) ∧
    (h.overall = .unhealthy ↔
      ∃ f now, Record.last? Health.apiName records = some (.faults f now) ∧ 0 < f.rejected) ∧
    (h.isReady = true ↔ .ready ∈ records ∧ h.overall ≠ .unhealthy) ∧
    (h.readinessJson.field? "ready" = some (.bool h.isReady) ∧
      ((h.readinessJson.field? "reason").isSome = true ↔ h.isReady = false)) ∧
    (.ready ∈ records → ∀ (site : Site) (visits : List Site.Visit) (m : Moment),
      let s := { site with health := h }.afterVisits visits
      (s.answer m .get "/readyz").response.status = 200 ↔
        (s.answer m .get "/healthz").response.status = 200) := by
  intro h
  refine ⟨Health.nodup_components records,?_,Health.mem_after_iff records,?_,h.rank_le_overall,
    h.overall_mem,Health.overall_after_iff records,Health.isReady_after records,
    h.readinessJson_reason,?_⟩
  · intro name
    have hm := Record.isSome_last?_iff name records
    rw [← hm]
    constructor
    · intro hn
      obtain ⟨⟨n,c⟩,hc,rfl⟩ := List.mem_map.mp hn
      obtain ⟨r,hl,-⟩ := (Health.mem_after_iff records n c).mp hc
      rw [hl]
      rfl
    · intro hs
      obtain ⟨r,hl⟩ := Option.isSome_iff_exists.mp hs
      obtain ⟨⟨n,c⟩,hw,rfl⟩ := Option.map_eq_some_iff.mp (Record.target?_of_last? hl)
      exact List.mem_map_of_mem ((Health.mem_after_iff records n c).mpr ⟨r,hl,hw⟩)
  · intro name c hc
    obtain ⟨r,hl,hw⟩ := (Health.mem_after_iff records name c).mp hc
    exact ⟨r,hl,Record.unhealthy_iff hw,Record.degraded_iff hw,Record.message_eq_none_iff hw⟩
  · intro hready site visits m s
    obtain ⟨more,hmore⟩ := { site with health := h }.exists_records_of_visits visits
    have hh : s.health = Health.after (records ++ more) := hmore.trans (Health.after_append ..).symm
    have hr : Record.ready ∈ records ++ more := List.mem_append_left _ hready
    have hi := Health.isReady_after (records ++ more)
    rw [s.answer_readyz,s.answer_healthz,s.readinessPage_status,s.healthPage_status,hh,hi]
    exact and_iff_right hr

end CloudMetrics.Service
