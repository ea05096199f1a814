import CloudMetrics.Proofs.MergedSettings
import CloudMetrics.Proofs.SiteReports
import CloudMetrics.Proofs.VariableTexts

/-!
# Paths of the metrics

The path of the metrics is looked at when the settings are loaded: it starts with a slash and is none of
the service's own. But the router reads it as a pattern, and a request names it as a target, in which the
path ends at a question mark or a number sign. So a path of plain characters is served, and nothing else
beside the service's own pages; a path with a mark of either kind is loaded all the same, and then it is no
route, or its own link leads nowhere, or other paths are served too.
-/
namespace CloudMetrics.Service

open Text

/-- A character that ends the path of a target. -/
def endsPath (c : Char) : Bool := c = '?' || c = '#'

/-- A path that is read as it is written, by the router and in a target. -/
def IsPlainPath (path : String) : Prop := ∀ c ∈ path.toList, ¬Segment.isMark c ∧ ¬endsPath c

instance (path : String) : Decidable (IsPlainPath path) :=
  List.decidableBAll (fun c => ¬Segment.isMark c ∧ ¬endsPath c) path.toList

theorem segments_eq_splitOn (path : List Char) : segments path = path.splitOn '/' := by
  rw [segments,Config.splitBy_eq_splitOnP,List.splitOn]
  rfl

theorem segments_injective : Function.Injective segments := by
  intro p q h
  rw [segments_eq_splitOn,segments_eq_splitOn] at h
  have hp : ['/'].intercalate (p.splitOn '/') = p := List.intercalate_splitOn _
  rw [← hp,h,List.intercalate_splitOn]

theorem mem_of_mem_segments {path s : List Char} {c : Char} (hs : s ∈ segments path) (hc : c ∈ s) : c ∈ path := by
  have hpath : ['/'].intercalate (path.splitOn '/') = path := List.intercalate_splitOn _
  rw [segments_eq_splitOn] at hs
  rw [← hpath,List.intercalate]
  generalize path.splitOn '/' = parts at hs ⊢
  refine List.mem_flatten.mpr ⟨s,?_,hc⟩
  induction parts with
  | nil => cases hs
  | cons t parts ih =>
    cases parts with
    | nil => simpa using hs
    | cons u parts =>
      rw [List.intersperse_cons_cons]
      rcases List.mem_cons.mp hs with rfl | hs
      · exact List.mem_cons_self
      · exact List.mem_cons_of_mem _ (List.mem_cons_of_mem _ (ih hs))

/-- Characters may be exchanged before or after the cut, as long as the slashes are the same. -/
theorem segments_map (f : Char → Char) (hf : ∀ c, f c = '/' ↔ c = '/') (path : List Char) :
    segments (path.map f) = (segments path).map (List.map f) := by
  induction path with
  | nil => rfl
  | cons c path ih =>
    simp only [segments] at ih ⊢
    simp only [List.map_cons,splitBy,hf,ih]
    split
    · rfl
    · cases splitBy (· = '/') path <;> rfl

namespace Segment

/-- A text that a segment takes, where it does not end the path. -/
def Takes : Segment → List Char → Prop
  | .exact text, s => text = s
  | .param lead, s | .tail lead, s => lead <+: s ∧ lead.length < s.length

theorem read_of_plain {s : List Char} (h : ∀ c ∈ s, ¬isMark c) : read s = .ok (.exact s) := by
  have hdrop : s.dropWhile (fun c => !isMark c) = [] := by
    rw [List.dropWhile_eq_nil_iff]
    intro c hc
    simpa using h c hc
  rw [read,hdrop]

/-- A dash for each mark. -/
def dashed (c : Char) : Char := if isMark c then '-' else c

theorem map_dashed_of_plain {s : List Char} (h : ∀ c ∈ s, ¬isMark c) : s.map dashed = s := by
  refine (List.map_congr_left ?_).trans (List.map_id s)
  intro c hc
  rw [dashed,if_neg (h c hc),id]

theorem not_isMark_of_mem_map_dashed {s : List Char} {c : Char} (h : c ∈ s.map dashed) : ¬isMark c := by
  obtain ⟨d,-,rfl⟩ := List.mem_map.mp h
  rw [dashed]
  split
  · decide
  · assumption

/-- A wildcard takes its own name, and then also the name behind a dash. -/
theorem takes_dashed {s : List Char} {segment : Segment} (h : read s = .ok segment) :
    segment.Takes (s.map dashed) := by
  have hs : s.takeWhile (fun c => !isMark c) ++ s.dropWhile (fun c => !isMark c) = s :=
    List.takeWhile_append_dropWhile
  have hlead : ∀ c ∈ s.takeWhile fun c => !isMark c, ¬isMark c := by
    intro c hc
    simpa using List.mem_takeWhile_imp hc
  rw [read] at h
  cases hd : s.dropWhile fun c => !isMark c with
  | nil =>
    rw [hd] at h
    rw [hd,List.append_nil] at hs
    obtain rfl := Except.ok.inj h
    exact (map_dashed_of_plain (hs ▸ hlead)).symm
  | cons mark name =>
    rw [hd] at h hs
    have hlead' : s.takeWhile (fun c => !isMark c) <+: s.map dashed := by
      refine ⟨(mark :: name).map dashed,?_⟩
      conv_rhs => rw [← hs,List.map_append,map_dashed_of_plain hlead]
    have hshort : (s.takeWhile fun c => !isMark c).length < (s.map dashed).length := by
      have hlength := congrArg List.length hs
      rw [List.length_append,List.length_cons] at hlength
      rw [List.length_map]
      omega
    simp only [ite_eq_iff,reduceCtorEq,and_false,false_or,Except.ok.injEq] at h
    obtain ⟨-,-,⟨-,rfl⟩ | ⟨-,rfl⟩⟩ := h
    · exact ⟨hlead',hshort⟩
    · exact ⟨hlead',hshort⟩

end Segment

theorem throw_unless_eq_ok_iff {ε α : Type} {c : Prop} [Decidable c] {e : ε} {next : PUnit → Except ε α} {a : α} :
    (if c then throw e >>= next else next ⟨⟩) = .ok a ↔ ¬c ∧ next ⟨⟩ = .ok a := by
  by_cases hc : c
  · rw [if_pos hc]
    exact ⟨nofun,fun h => absurd hc h.1⟩
  · rw [if_neg hc]
    exact ⟨fun h => ⟨hc,h⟩,And.right⟩

theorem bind_eq_ok_iff {ε α β : Type} {x : Except ε α} {next : α → Except ε β} {b : β} :
    x >>= next = .ok b ↔ ∃ a, x = .ok a ∧ next a = .ok b := by
  cases x with
  | error e => exact ⟨nofun,nofun⟩
  | ok a =>
    constructor
    · exact fun h => ⟨a,rfl,h⟩
    · rintro ⟨_,⟨⟩,h⟩
      exact h

namespace Pattern

/-- What makes a path a route. -/
theorem read_eq_ok_iff (path : String) (pattern : Pattern) :
    read path = .ok pattern ↔ path.toList.head? = some '/' ∧ (ownRoutes.lookup path).isSome = false ∧
      (segments path.toList).mapM Segment.read = .ok pattern ∧ pattern.countP Segment.isParam ≤ maxParams ∧
      pattern.dropLast.any Segment.isTail = false ∧
      ∀ lead, pattern.getLast? = some (.tail lead) → tailFits path.toList lead := by
  rw [read]
  simp only [throw_unless_eq_ok_iff,bind_eq_ok_iff,not_not,Nat.not_lt,Bool.not_eq_true]
  refine and_congr_right fun _ => and_congr_right fun _ => ?_
  constructor
  · rintro ⟨parts,hparts,hcount,htails,hend⟩
    split at hend
    · next lead hlast =>
      split at hend
      · next hfits =>
        obtain rfl := Except.ok.inj hend
        refine ⟨hparts,hcount,htails,fun lead' hlast' => ?_⟩
        rw [hlast] at hlast'
        cases hlast'
        exact hfits
      · cases hend
    · next hother =>
      obtain rfl := Except.ok.inj hend
      exact ⟨hparts,hcount,htails,fun lead hlast => absurd hlast (hother lead)⟩
  · rintro ⟨hparts,hcount,htails,hend⟩
    refine ⟨pattern,hparts,hcount,htails,?_⟩
    split
    · next lead hlast => exact if_pos (hend lead hlast)
    · rfl

theorem mapM_read_of_plain {parts : List (List Char)} (h : ∀ s ∈ parts, ∀ c ∈ s, ¬Segment.isMark c) :
    parts.mapM Segment.read = .ok (parts.map Segment.exact) := by
  induction parts with
  | nil => rfl
  | cons s parts ih =>
    have hs := Segment.read_of_plain (h s List.mem_cons_self)
    have hrest := ih fun t ht => h t (List.mem_cons_of_mem _ ht)
    rw [List.mapM_cons,hs]
    exact bind_eq_ok_iff.mpr ⟨_,rfl,bind_eq_ok_iff.mpr ⟨_,hrest,rfl⟩⟩

theorem read_of_plain {path : String} (hstart : path.toList.head? = some '/')
    (hfree : (ownRoutes.lookup path).isSome = false) (h : ∀ c ∈ path.toList, ¬Segment.isMark c) :
    read path = .ok ((segments path.toList).map Segment.exact) := by
  have hparts := mapM_read_of_plain fun s hs c hc => h c (mem_of_mem_segments hs hc)
  refine (read_eq_ok_iff path _).mpr ⟨hstart,hfree,hparts,?_,?_,?_⟩
  · rw [List.countP_map,List.countP_eq_zero.mpr (by simp [Segment.isParam])]
    exact Nat.zero_le _
  · rw [← List.map_dropLast,List.any_map]
    exact List.any_eq_false.mpr (by simp [Segment.isTail])
  · intro lead hlast
    obtain ⟨s,-,hs⟩ := List.mem_map.mp (List.mem_of_getLast? hlast)
    cases hs

theorem follows_exact_iff {texts path : List (List Char)} :
    follows (texts.map Segment.exact) path ↔ texts = path := by
  induction texts generalizing path with
  | nil => cases path <;> simp [follows]
  | cons text texts ih =>
    cases path with
    | nil => simp [follows]
    | cons s path => simp [follows,ih]

theorem stem?_exact (texts : List (List Char)) : stem? (texts.map Segment.exact) = none := by
  induction texts with
  | nil => rfl
  | cons text texts ih => rw [List.map_cons,stem?,ih,Option.map_none]

/-- A path without wildcards leads to itself. -/
theorem leadsTo_exact_iff {path target : List Char} :
    leadsTo ((segments path).map Segment.exact) target ↔ target = path := by
  rw [leadsTo,isShadowed,stem?_exact,Option.any_none,Bool.not_false,Bool.and_true,follows_exact_iff,
    segments_injective.eq_iff,eq_comm]

/-- A pattern with no wildcard for the rest before its end is followed by the texts its segments take. -/
theorem follows_of_takes {pattern : Pattern} {path : List (List Char)} (h : List.Forall₂ Segment.Takes pattern path)
    (htails : pattern.dropLast.any Segment.isTail = false) : pattern.follows path := by
  induction h with
  | nil => rfl
  | @cons segment s pattern path hs hrest ih =>
    cases hrest with
    | nil =>
      cases segment with
      | exact text =>
        obtain rfl : text = s := hs
        simp [follows]
      | param lead => simp [follows,hs.1,hs.2]
      | tail lead => simp [follows,hs.1,hs.2]
    | @cons segment' t pattern path ht hrest =>
      rw [List.dropLast_cons_of_ne_nil (by simp),List.any_cons,Bool.or_eq_false_iff] at htails
      have hfollows := ih htails.2
      cases segment with
      | exact text =>
        obtain rfl : text = s := hs
        rw [follows,hfollows,beq_self_eq_true,Bool.and_true]
      | param lead => simp [follows,hs.1,hfollows]
      | tail lead => cases htails.1

theorem takes_of_mapM_read {parts : List (List Char)} {pattern : Pattern}
    (h : parts.mapM Segment.read = .ok pattern) :
    List.Forall₂ Segment.Takes pattern (parts.map (List.map Segment.dashed)) := by
  induction parts generalizing pattern with
  | nil =>
    obtain rfl := Except.ok.inj h
    exact .nil
  | cons s parts ih =>
    rw [List.mapM_cons] at h
    obtain ⟨segment,hs,h⟩ := bind_eq_ok_iff.mp h
    obtain ⟨rest,hrest,h⟩ := bind_eq_ok_iff.mp h
    obtain rfl := Except.ok.inj h
    exact .cons (Segment.takes_dashed hs) (ih hrest)

/-- A route with a mark in its path also leads to the path with dashes instead of its marks. -/
theorem leadsTo_dashed {path : String} {pattern : Pattern} (h : read path = .ok pattern)
    (hmark : ∃ c ∈ path.toList, Segment.isMark c) : pattern.leadsTo (path.toList.map Segment.dashed) := by
  obtain ⟨-,-,hparts,-,htails,-⟩ := (read_eq_ok_iff path pattern).mp h
  obtain ⟨c,hc,hmark⟩ := hmark
  have hslash (c : Char) : Segment.dashed c = '/' ↔ c = '/' := by
    rw [Segment.dashed]
    split
    · next hm =>
      have hne : c ≠ '/' := by
        rintro rfl
        revert hm
        decide
      simp [hne]
    · rfl
  have hdash : '-' ∈ path.toList.map Segment.dashed :=
    List.mem_map.mpr ⟨c,hc,if_pos hmark⟩
  have hshadow : pattern.isShadowed (path.toList.map Segment.dashed) = false := by
    rw [isShadowed,Option.any_eq_false]
    intro stem _
    rw [List.any_eq_false]
    intro r hr hown
    simp only [Bool.and_eq_true,decide_eq_true_eq] at hown
    have hplain : ∀ r ∈ ownRoutes, '-' ∉ r.1.toList ++ ['/'] := by decide
    exact hplain r hr (hown.1.1 ▸ hdash)
  rw [leadsTo,segments_map _ hslash,follows_of_takes (takes_of_mapM_read hparts) htails,hshadow]
  rfl

end Pattern

theorem pathOf_eq_iff (path : String) : pathOf path = path ↔ ∀ c ∈ path.toList, ¬endsPath c := by
  rw [pathOf,← String.toList_inj,String.toList_ofList,List.takeWhile_eq_self_iff]
  simp [endsPath]

theorem pathOf_pathOf (target : String) : pathOf (pathOf target) = pathOf target := by
  rw [pathOf_eq_iff]
  intro c hc
  rw [pathOf,String.toList_ofList] at hc
  simpa [endsPath] using List.mem_takeWhile_imp hc

theorem pageAt?_pathOf (pattern : Pattern) (target : String) :
    pageAt? pattern (pathOf target) = pageAt? pattern target := by
  rw [pageAt?,pageAt?,pathOf_pathOf]

theorem pageAt?_of_not_own {target : String} (h : pathOf target ∉ ["/","/healthz","/readyz"]) (pattern : Pattern) :
    pageAt? pattern target = if pattern.leadsTo (pathOf target).toList then some .metrics else none := by
  rw [← Config.Settings.isSome_ownRoutes_iff,Option.not_isSome_iff_eq_none] at h
  rw [pageAt?,h,Option.none_or]

/-- The metrics are at none of the service's own paths. -/
theorem not_own_of_pageAt?_eq_metrics {pattern : Pattern} {target : String}
    (h : pageAt? pattern target = some .metrics) : pathOf target ∉ ["/","/healthz","/readyz"] := by
  rw [← Config.Settings.isSome_ownRoutes_iff]
  intro hsome
  obtain ⟨page,hpage⟩ := Option.isSome_iff_exists.mp hsome
  rw [pageAt?,hpage,Option.some_or] at h
  obtain rfl := Option.some.inj h
  obtain ⟨_,_,hmem,-⟩ := List.lookup_eq_some_iff.mp hpage
  have hno : ∀ r ∈ ownRoutes, r.2 ≠ .metrics := by decide
  exact hno (pathOf target,.metrics) (hmem ▸ List.mem_append_right _ List.mem_cons_self) rfl

/-- A route with a mark in its path leads to another path as well, with a dash for each mark. -/
theorem exists_other_target {path : String} {pattern : Pattern} (h : Pattern.read path = .ok pattern)
    (hends : ∀ c ∈ path.toList, ¬endsPath c) (hmark : ∃ c ∈ path.toList, Segment.isMark c) :
    ∃ target, pathOf target ≠ path ∧ pathOf target ∉ ["/","/healthz","/readyz"] ∧
      pageAt? pattern target = some .metrics := by
  have hleads := Pattern.leadsTo_dashed h hmark
  obtain ⟨c,hc,hmark⟩ := hmark
  have htarget : (String.ofList (path.toList.map Segment.dashed)).toList = path.toList.map Segment.dashed :=
    String.toList_ofList
  generalize String.ofList (path.toList.map Segment.dashed) = target at htarget
  have hpath : pathOf target = target := by
    rw [pathOf_eq_iff,htarget]
    intro d hd
    obtain ⟨e,he,rfl⟩ := List.mem_map.mp hd
    rw [Segment.dashed]
    split
    · decide
    · exact hends e he
  have hown : pathOf target ∉ ["/","/healthz","/readyz"] := by
    have hdash : '-' ∈ target.toList := htarget ▸ List.mem_map.mpr ⟨c,hc,if_pos hmark⟩
    have hplain : ∀ own ∈ ["/","/healthz","/readyz"], '-' ∉ own.toList := by decide
    rw [hpath]
    exact fun hm => hplain target hm hdash
  refine ⟨target,?_,hown,?_⟩
  · intro he
    rw [hpath,← String.toList_inj,htarget] at he
    rw [← he] at hc
    exact Segment.not_isMark_of_mem_map_dashed hc hmark
  · rw [pageAt?_of_not_own hown,hpath,htarget,if_pos hleads]

namespace Site

open Collect Metrics

/-- A site in another state: its health, its counters and its caches may differ. -/
def SameRoutes (t site : Site) : Prop := t.metricsPath = site.metricsPath ∧ t.pattern = site.pattern

/-- The service's own pages answer at their paths, and nothing is scraped for them. -/
structure AnswersOwn (t : Site) : Prop where
  landing : ∀ (m : Moment) (target : String), pathOf target = "/" →
    t.visit ⟨m,.get,target⟩ = ⟨t.landingPage,t,none⟩
  health : ∀ (m : Moment) (target : String), pathOf target = "/healthz" →
    t.visit ⟨m,.get,target⟩ = ⟨t.healthPage,t,none⟩
  readiness : ∀ (m : Moment) (target : String), pathOf target = "/readyz" →
    t.visit ⟨m,.get,target⟩ = ⟨t.readinessPage,t,none⟩

/-- A `get` of the configured path runs one scrape and answers with its text, and there is nothing at a path
that is neither this one nor the service's own. -/
structure Serves (t : Site) : Prop extends AnswersOwn t where
  metrics : ∀ m : Moment, ∃ text,
    let o := t.collectors.scrape m.schedule m.now m.api t.caches
    expose o.samples (t.afterScrape o m.now).counters.families = .ok text ∧
      t.visit ⟨m,.get,t.metricsPath⟩ =
        ⟨⟨200,some "text/plain; version=0.0.4",text⟩,t.afterScrape o m.now,some o⟩
  absent : ∀ v : Visit, pathOf v.target ≠ t.metricsPath → pathOf v.target ∉ ["/","/healthz","/readyz"] →
    t.visit v = ⟨.notFound,t,none⟩

theorem new_eq_ok_iff {collectors : CollectorSet} {path : String} {site : Site} :
    new collectors path = .ok site ↔
      ∃ pattern, Pattern.read path = .ok pattern ∧ site = { collectors, metricsPath := path, pattern } := by
  rw [new]
  cases Pattern.read path with
  | error e => exact ⟨nofun,nofun⟩
  | ok pattern =>
    constructor
    · rintro ⟨⟩
      exact ⟨pattern,rfl,rfl⟩
    · rintro ⟨_,⟨⟩,rfl⟩
      rfl

theorem visit_keeps_path (s : Site) (v : Visit) : (s.visit v).site.metricsPath = s.metricsPath := by
  rw [visit,answer]
  cases pageAt? s.pattern v.target with
  | none => rfl
  | some page => cases page <;> cases v.method <;> rfl

theorem sameRoutes_afterVisits (s : Site) (visits : List Visit) : (s.afterVisits visits).SameRoutes s := by
  refine ⟨?_,(s.afterVisits_keeps visits).2⟩
  induction visits generalizing s with
  | nil => rfl
  | cons v visits ih => exact (ih (s.visit v).site).trans (s.visit_keeps_path v)

theorem visit_of_page {t : Site} {target : String} {page : Page} (h : pageAt? t.pattern target = some page)
    (m : Moment) : t.visit ⟨m,.get,target⟩ = t.serve m page := by
  rw [visit,answer,h]

theorem answersOwn (t : Site) : t.AnswersOwn := by
  have hown {target path : String} (page : Page) (hp : pathOf target = path)
      (hl : ownRoutes.lookup path = some page) (m : Moment) : t.visit ⟨m,.get,target⟩ = t.serve m page := by
    refine visit_of_page ?_ m
    rw [pageAt?,hp,hl,Option.some_or]
  constructor
  · exact fun m target hp => hown .landing hp (by decide) m
  · exact fun m target hp => hown .health hp (by decide) m
  · exact fun m target hp => hown .readiness hp (by decide) m

/-- What a site serves is up to the pages at the targets. -/
theorem serves_iff (t : Site) : t.Serves ↔ pageAt? t.pattern t.metricsPath = some .metrics ∧
    ∀ target, pathOf target ≠ t.metricsPath → pathOf target ∉ ["/","/healthz","/readyz"] →
      pageAt? t.pattern target = none := by
  have hscrape {m : Moment} {target : String} (h : pageAt? t.pattern target = some .metrics) :
      (t.visit ⟨m,.get,target⟩).scrape.isSome := by
    rw [visit_of_page h m]
    rfl
  constructor
  · intro hserves
    have m : Moment := { now := .epoch, api := fun c => .error .client }
    constructor
    · by_contra hne
      have hnone := (t.visit_of_ne_metrics (v := ⟨m,.get,t.metricsPath⟩) hne).2
      obtain ⟨text,-,hvisit⟩ := hserves.metrics m
      rw [hvisit] at hnone
      cases hnone
    · intro target hpath hown
      have hvisit := hserves.absent ⟨m,.get,target⟩ hpath hown
      rw [pageAt?_of_not_own hown]
      split
      · next hleads =>
        have hsome : (t.visit ⟨m,.get,target⟩).scrape.isSome :=
          hscrape (by rw [pageAt?_of_not_own hown,if_pos hleads])
        rw [hvisit] at hsome
        cases hsome
      · rfl
  · rintro ⟨hmetrics,habsent⟩
    refine ⟨t.answersOwn,fun m => ?_,fun v hpath hown => ?_⟩
    · have hnamed := t.collectors.scrape_samples_named m.schedule m.now m.api t.caches
      refine ⟨_,expose_of_named hnamed fun f => Counters.name_ne_empty_of_mem_families,?_⟩
      rw [visit_of_page hmetrics m,serve,metricsPage_of_named _ hnamed]
    · rw [visit,answer,habsent v.target hpath hown]

/-- A route is served just when its path is plain. -/
theorem serves_iff_isPlainPath {t : Site} (hread : Pattern.read t.metricsPath = .ok t.pattern) :
    t.Serves ↔ IsPlainPath t.metricsPath := by
  obtain ⟨hstart,hfree,-⟩ := (Pattern.read_eq_ok_iff _ _).mp hread
  rw [serves_iff]
  constructor
  · rintro ⟨hmetrics,habsent⟩
    have hends : ∀ c ∈ t.metricsPath.toList, ¬endsPath c := by
      rw [← pathOf_eq_iff]
      by_contra hne
      have hown := not_own_of_pageAt?_eq_metrics hmetrics
      have hnone := habsent (pathOf t.metricsPath) (by rwa [pathOf_pathOf]) (by rwa [pathOf_pathOf])
      rw [pageAt?_pathOf,hmetrics] at hnone
      cases hnone
    intro c hc
    refine ⟨fun hmark => ?_,hends c hc⟩
    obtain ⟨target,hne,hown,hpage⟩ := exists_other_target hread hends ⟨c,hc,hmark⟩
    rw [habsent target hne hown] at hpage
    cases hpage
  · intro hplain
    have hexact := Pattern.read_of_plain hstart hfree fun c hc => (hplain c hc).1
    rw [hread] at hexact
    rw [Except.ok.inj hexact]
    have hpath : pathOf t.metricsPath = t.metricsPath := (pathOf_eq_iff _).mpr fun c hc => (hplain c hc).2
    have hown : t.metricsPath ∉ ["/","/healthz","/readyz"] := by
      rw [← Config.Settings.isSome_ownRoutes_iff,hfree]
      exact Bool.false_ne_true
    constructor
    · rw [pageAt?_of_not_own (by rwa [hpath]),hpath,if_pos (Pattern.leadsTo_exact_iff.mpr rfl)]
    · intro target hne hown
      rw [pageAt?_of_not_own hown,if_neg]
      rw [Pattern.leadsTo_exact_iff,String.toList_inj]
      exact hne

end Site

open Collect Config

section
variable {files : String → Option String} {env : Environment} {f : Flags} {s : Settings}

/-- Whatever path of the metrics is accepted, a site with it answers for the service's own pages, in every
state and after all visits. A site is made and serves the metrics at the accepted path, and nothing at other
paths, just when the path is plain: no colon or star for the router and no question mark or number sign
for a target. -/
theorem accepted_paths_are_served_iff_plain (h : Settings.load files env f = .ok s) (collectors : CollectorSet) :
    (∀ site, Site.new collectors s.webpath = .ok site →
      ∀ t : Site, t.SameRoutes site → ∀ visits, (t.afterVisits visits).AnswersOwn) ∧
    ((∃ site, Site.new collectors s.webpath = .ok site ∧
      ∀ t : Site, t.SameRoutes site → ∀ visits, (t.afterVisits visits).Serves) ↔ IsPlainPath s.webpath) := by
  obtain ⟨-,-,-,ha⟩ := Settings.exists_beneath_of_load h
  refine ⟨fun site _ t _ visits => (t.afterVisits visits).answersOwn,?_⟩
  constructor
  · rintro ⟨site,hnew,hserves⟩
    obtain ⟨pattern,hread,rfl⟩ := Site.new_eq_ok_iff.mp hnew
    exact (Site.serves_iff_isPlainPath hread).mp (hserves _ ⟨rfl,rfl⟩ [])
  · intro hplain
    have hfree : (ownRoutes.lookup s.webpath).isSome = false := by
      rw [← Bool.not_eq_true,Settings.isSome_ownRoutes_iff]
      exact ha.pathFree
    have hread := Pattern.read_of_plain ha.pathStart hfree fun c hc => (hplain c hc).1
    refine ⟨_,Site.new_eq_ok_iff.mpr ⟨_,hread,rfl⟩,?_⟩
    intro t ht visits
    obtain ⟨hpath,hpattern⟩ := t.sameRoutes_afterVisits visits
    have hpath := hpath.trans ht.1
    have hpattern := hpattern.trans ht.2
    refine (Site.serves_iff_isPlainPath ?_).mpr ?_
    · rw [hpath,hpattern]
      exact hread
    · rw [hpath]
      exact hplain

/-- Flags with a path of the metrics. -/
def atPath (path : String) : Flags :=
  { token := some "t", secret := some "s", zones := ["is1a"], webpath := some path }

/-- Slashes may follow each other, and the path of another page may be in it. -/
theorem accepted_paths_are_served_iff_plain_of_slashes :
    ∃ s, Settings.load (fun _ => none) [] (atPath "/healthz//metrics/") = .ok s ∧
      ∃ site, Site.new (CollectorSet.build [] ["is1a"] "1") s.webpath = .ok site ∧
        ∀ visits, (site.afterVisits visits).Serves := by
  have hload : Settings.load (fun _ => none) [] (atPath "/healthz//metrics/") =
      .ok { token := "t", secret := "s", zones := ["is1a"], webpath := "/healthz//metrics/" } := by
    decide +kernel
  obtain ⟨-,hserved⟩ := accepted_paths_are_served_iff_plain hload (CollectorSet.build [] ["is1a"] "1")
  obtain ⟨site,hnew,hserves⟩ := hserved.mpr (by decide)
  exact ⟨_,hload,site,hnew,hserves site ⟨rfl,rfl⟩⟩

/-- A path with a query is accepted, and then nothing is found at it; one with a capture is accepted, and then
the metrics are at other paths too; and one with a capture that has no name is accepted, and it is no route. -/
theorem accepted_paths_need_not_be_served :
    (∃ s, Settings.load (fun _ => none) [] (atPath "/metrics?format=text") = .ok s ∧
      ∃ site, Site.new (CollectorSet.build [] ["is1a"] "1") s.webpath = .ok site ∧
        ∀ m, site.visit ⟨m,.get,s.webpath⟩ = ⟨.notFound,site,none⟩) ∧
    (∃ s, Settings.load (fun _ => none) [] (atPath "/:x") = .ok s ∧
      ∃ site, Site.new (CollectorSet.build [] ["is1a"] "1") s.webpath = .ok site ∧
        ∀ m, (site.visit ⟨m,.get,"/y"⟩).scrape.isSome) ∧
    ∃ s, Settings.load (fun _ => none) [] (atPath "/:") = .ok s ∧
      Site.new (CollectorSet.build [] ["is1a"] "1") s.webpath = .error .unnamedWildcard := by
  have hquery : pageAt? [.exact [],.exact "metrics?format=text".toList] "/metrics?format=text" = none := by
    decide +kernel
  have hcapture : pageAt? [.exact [],.param []] "/y" = some .metrics := by decide +kernel
  refine ⟨⟨{ token := "t", secret := "s", zones := ["is1a"], webpath := "/metrics?format=text" },by decide +kernel,
      _,Site.new_eq_ok_iff.mpr ⟨[.exact [],.exact "metrics?format=text".toList],by decide +kernel,rfl⟩,?_⟩,
    ⟨{ token := "t", secret := "s", zones := ["is1a"], webpath := "/:x" },by decide +kernel,
      _,Site.new_eq_ok_iff.mpr ⟨[.exact [],.param []],by decide +kernel,rfl⟩,?_⟩,
    { token := "t", secret := "s", zones := ["is1a"], webpath := "/:" },by decide +kernel,rfl⟩
  · intro m
    rw [Site.visit,Site.answer,hquery]
  · intro m
    rw [Site.visit_of_page hcapture m]
    rfl

end

end CloudMetrics.Service
