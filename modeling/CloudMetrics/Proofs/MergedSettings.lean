import CloudMetrics.Proofs.Scrapes
import CloudMetrics.Proofs.TidyZones

/-!
# Flags over settings

Flags are put over the settings that the defaults, a document and the environment give together. Three
rules say how: a value goes before a value, a list before a list if it holds anything, and names are added
to names. What comes out is looked at as a whole, and it is loaded just when nothing in it is wrong.
-/
namespace CloudMetrics.Config.Settings

open Collect

variable {files : String → Option String} {env : Environment} {f : Flags} {base s : Settings}

theorem addNames_cons (names : List String) (n : String) (others : List String) :
    addNames names (n :: others) = addNames (if n ∈ names then names else names ++ [n]) others := by
  simp only [addNames,List.foldl_cons,List.contains_iff_mem]

/-- The names that are new, each where it first stands. -/
theorem addNames_eq (names others : List String) :
    addNames names others = names ++ (others.filter fun n => n ∉ names).eraseDups := by
  induction others generalizing names with
  | nil => exact (List.append_nil names).symm
  | cons n others ih =>
    rw [addNames_cons,ih]
    by_cases hn : n ∈ names
    · rw [if_pos hn,List.filter_cons_of_neg (by simpa using hn)]
    · have hrest : (others.filter fun m => m ∉ names ++ [n]) =
          (others.filter fun m => m ∉ names).filter fun m => !m == n := by
        rw [List.filter_filter]
        refine List.filter_congr fun m _ => ?_
        by_cases hm : m ∈ names <;> by_cases he : m = n <;> simp [hm,he]
      rw [if_neg hn,List.filter_cons_of_pos (by simpa using hn),List.eraseDups_cons,hrest,List.append_assoc]
      rfl

theorem mem_addNames {n : String} {names others : List String} :
    n ∈ addNames names others ↔ n ∈ names ∨ n ∈ others := by
  rw [addNames_eq,List.mem_append,List.mem_eraseDups,List.mem_filter]
  by_cases h : n ∈ names <;> simp [h]

theorem addNames_of_subset {names others : List String} (h : ∀ n ∈ others, n ∈ names) :
    addNames names others = names := by
  have hnone : (others.filter fun n => n ∉ names) = [] := by
    rw [List.filter_eq_nil_iff]
    intro n hn
    simpa using h n hn
  rw [addNames_eq,hnone]
  exact List.append_nil names

/-- What comes of flags over other settings. -/
structure MergedFrom (base : Settings) (f : Flags) (s : Settings) : Prop where
  token : s.token = f.token.getD base.token
  secret : s.secret = f.secret.getD base.secret
  webaddr : s.webaddr = f.webaddr.getD base.webaddr
  webpath : s.webpath = f.webpath.getD base.webpath
  apiRootUrl : s.apiRootUrl = f.apiRootUrl.getD base.apiRootUrl
  apiTimeoutSecs : s.apiTimeoutSecs = f.apiTimeoutSecs.getD base.apiTimeoutSecs
  zones : s.zones = ((if f.zones = [] then base.zones else f.zones).map Text.trim).filter (· ≠ "")
  disabledCollectors : s.disabledCollectors = base.disabledCollectors ++
    (f.disableCollector.filter fun n => n ∉ base.disabledCollectors).eraseDups
  debug : s.debug = true ↔ base.debug = true ∨ f.debug = true

theorem withFlags_zones (base : Settings) (f : Flags) :
    (base.withFlags f).zones = tidyZones (if f.zones = [] then base.zones else f.zones) := by
  simp only [withFlags,List.isEmpty_iff]

theorem mergedFrom_withFlags (base : Settings) (f : Flags) : MergedFrom base f (base.withFlags f) where
  token := rfl
  secret := rfl
  webaddr := rfl
  webpath := rfl
  apiRootUrl := rfl
  apiTimeoutSecs := rfl
  zones := withFlags_zones base f
  disabledCollectors := addNames_eq _ _
  debug := Bool.or_eq_true _ _ ▸ Iff.rfl

theorem MergedFrom.eq {s' : Settings} (h : MergedFrom base f s) (h' : MergedFrom base f s') : s = s' := by
  have hdebug : s.debug = s'.debug := Bool.eq_iff_iff.mpr (h.debug.trans h'.debug.symm)
  obtain ⟨token,secret,webaddr,webpath,root,timeout,zones,disabled,-⟩ := h
  obtain ⟨token',secret',webaddr',webpath',root',timeout',zones',disabled',-⟩ := h'
  cases s
  cases s'
  simp_all only

theorem mergedFrom_iff : MergedFrom base f s ↔ s = base.withFlags f :=
  ⟨fun h => h.eq (mergedFrom_withFlags base f),fun h => h ▸ mergedFrom_withFlags base f⟩

/-- Flags that have been put over settings once change nothing when they are put over them again. -/
theorem withFlags_withFlags (base : Settings) (f : Flags) :
    (base.withFlags f).withFlags f = base.withFlags f := by
  have hzones : tidyZones (if f.zones = [] then (base.withFlags f).zones else f.zones) =
      (base.withFlags f).zones := by
    rw [withFlags_zones]
    split
    · exact tidyZones_tidyZones _
    · rfl
  have hnames : addNames (base.withFlags f).disabledCollectors f.disableCollector =
      (base.withFlags f).disabledCollectors :=
    addNames_of_subset fun _ hn => mem_addNames.mpr (.inr hn)
  have hvalue {α : Type} (flag : Option α) (a : α) : flag.getD (flag.getD a) = flag.getD a := by
    cases flag <;> rfl
  symm
  refine mergedFrom_iff.mp ⟨?_,?_,?_,?_,?_,?_,hzones.symm,?_,?_⟩
  · exact (hvalue f.token base.token).symm
  · exact (hvalue f.secret base.secret).symm
  · exact (hvalue f.webaddr base.webaddr).symm
  · exact (hvalue f.webpath base.webpath).symm
  · exact (hvalue f.apiRootUrl base.apiRootUrl).symm
  · exact (hvalue f.apiTimeoutSecs base.apiTimeoutSecs).symm
  · rw [← addNames_eq,hnames]
  · simp [withFlags]

/-- Nothing in the settings is wrong. -/
structure Acceptable (s : Settings) : Prop where
  token : s.token ≠ ""
  secret : s.secret ≠ ""
  zones : s.zones ≠ []
  pathStart : s.webpath.toList.head? = some '/'
  pathFree : s.webpath ∉ ["/","/healthz","/readyz"]
  address : (readSocketAddress? s.webaddr).isSome
  timeout : 0 < s.apiTimeoutSecs
  collectors : ∀ name ∈ s.disabledCollectors, ∃ k : Kind, k.name = name

theorem isSome_ownRoutes_iff (path : String) :
    (Service.ownRoutes.lookup path).isSome ↔ path ∈ ["/","/healthz","/readyz"] := by
  simp only [Service.ownRoutes,Json.lookup_cons,List.lookup_nil,List.mem_cons,List.not_mem_nil,or_false]
  split
  · simp_all
  · split
    · simp_all
    · split <;> simp_all

theorem isKnown_iff (name : String) : Kind.isKnown name ↔ ∃ k : Kind, k.name = name := by
  rw [Kind.isKnown,Kind.ofName?,List.find?_isSome]
  constructor
  · rintro ⟨k,-,hk⟩
    exact ⟨k,beq_iff_eq.mp hk⟩
  · rintro ⟨k,hk⟩
    exact ⟨k,k.mem_all,beq_iff_eq.mpr hk⟩

theorem fault?_eq_none_iff : s.fault? = none ↔ Acceptable s := by
  have hroutes := isSome_ownRoutes_iff s.webpath
  have hknown : (s.disabledCollectors.find? fun n => !Kind.isKnown n) = none ↔
      ∀ name ∈ s.disabledCollectors, ∃ k : Kind, k.name = name := by
    rw [List.find?_eq_none]
    refine forall_congr' fun name => imp_congr_right fun _ => ?_
    rw [← isKnown_iff]
    simp
  constructor
  · intro h
    simp only [fault?,ite_eq_iff,reduceCtorEq,and_false,false_or,Option.map_eq_none_iff] at h
    obtain ⟨htoken,hsecret,hzones,hstart,hfree,haddress,htimeout,hfind⟩ := h
    exact ⟨htoken,hsecret,hzones,not_not.mp hstart,fun hm => hfree (hroutes.mpr hm),
      by simpa [Option.isSome_iff_ne_none] using haddress,Nat.pos_of_ne_zero htimeout,hknown.mp hfind⟩
  · intro h
    have hfree : ¬(Service.ownRoutes.lookup s.webpath).isSome := fun hs => h.pathFree (hroutes.mp hs)
    have haddress : ¬(readSocketAddress? s.webaddr).isNone := by
      rw [Option.isNone_iff_eq_none,← ne_eq,← Option.isSome_iff_ne_none]
      exact h.address
    rw [fault?,if_neg h.token,if_neg h.secret,if_neg h.zones,if_neg (not_not.mpr h.pathStart),if_neg hfree,
      if_neg haddress,if_neg h.timeout.ne',hknown.mpr h.collectors]
    rfl

/-- The settings that flags are put over. -/
def beneath (files : String → Option String) (env : Environment) (f : Flags) : Except SettingsError Settings := do
  ofLayers (← readFile files f) env

theorem load_eq (files : String → Option String) (env : Environment) (f : Flags) :
    load files env f = (beneath files env f).bind fun base =>
      match (base.withFlags f).fault? with
      | some fault => .error fault
      | none => .ok (base.withFlags f) := by
  rw [load,beneath]
  cases readFile files f with
  | error e => rfl
  | ok document =>
    change (ofLayers document env >>= _) = Except.bind (ofLayers document env) _
    cases ofLayers document env with
    | error e => rfl
    | ok base =>
      change (match (base.withFlags f).fault? with | some fault => _ | none => _) = Except.bind (.ok base) _
      rw [Except.bind]
      cases (base.withFlags f).fault? with
      | some fault => rfl
      | none => rfl

theorem load_eq_ok_iff (h : beneath files env f = .ok base) :
    load files env f = .ok s ↔ s = base.withFlags f ∧ Acceptable s := by
  rw [load_eq,h]
  change (match (base.withFlags f).fault? with | some fault => _ | none => _) = Except.ok s ↔ _
  cases hf : (base.withFlags f).fault? with
  | some fault =>
    refine ⟨nofun,?_⟩
    rintro ⟨rfl,ha⟩
    rw [fault?_eq_none_iff.mpr ha] at hf
    cases hf
  | none =>
    have ha := fault?_eq_none_iff.mp hf
    constructor
    · rintro ⟨⟩
      exact ⟨rfl,ha⟩
    · rintro ⟨rfl,-⟩
      rfl

theorem exists_beneath_of_load (h : load files env f = .ok s) :
    ∃ base, beneath files env f = .ok base ∧ s = base.withFlags f ∧ Acceptable s := by
  cases hb : beneath files env f with
  | error e =>
    rw [load_eq,hb] at h
    cases h
  | ok base => exact ⟨base,rfl,(load_eq_ok_iff hb).mp h⟩

/-- Flags over other settings are loaded just when nothing in what is merged is wrong. So each collector
that a flag disables is set up no more, or nothing is loaded. To merge the flags once more changes nothing. -/
theorem load_accepts_merged (h : beneath files env f = .ok base) :
    (∃ s, MergedFrom base f s) ∧
    (∀ s, load files env f = .ok s ↔ MergedFrom base f s ∧ Acceptable s) ∧
    (∀ s, MergedFrom base f s → s.withFlags f = s) ∧
    ∀ name ∈ f.disableCollector,
      (∃ fault, load files env f = .error fault) ∨
        ∃ s, load files env f = .ok s ∧ ∃ k : Kind, k.name = name ∧
          ∀ account, k ∉ (CollectorSet.build s.disabledCollectors s.zones account).kinds := by
  have hload := fun s => load_eq_ok_iff (s := s) h
  refine ⟨⟨_,mergedFrom_withFlags base f⟩,?_,?_,?_⟩
  · intro s
    rw [hload,mergedFrom_iff]
  · intro s hm
    rw [mergedFrom_iff.mp hm]
    exact withFlags_withFlags base f
  · intro name hname
    cases hs : load files env f with
    | error fault => exact .inl ⟨fault,rfl⟩
    | ok s =>
      obtain ⟨rfl,ha⟩ := (hload s).mp hs
      have hm : name ∈ (base.withFlags f).disabledCollectors := mem_addNames.mpr (.inr hname)
      obtain ⟨k,rfl⟩ := ha.collectors name hm
      refine .inr ⟨_,rfl,k,rfl,fun account hk => ?_⟩
      rw [CollectorSet.build,Kind.enabled_eq_filter,List.mem_filter] at hk
      simp [hm] at hk

/-- Variables that give zones with blanks and gaps, and disable a collector. -/
def twoVariables : Environment :=
  [("SAKURACLOUD_EXPORTER_ZONES"," is1a ,,tk1a"),("SAKURACLOUD_EXPORTER_DISABLED_COLLECTORS","bill")]

/-- Flags that disable that collector and another one, which is named twice. -/
def disablingFlags : Flags :=
  { token := some "t", secret := some "s", disableCollector := ["coupon","bill","coupon"], debug := true }

theorem load_accepts_merged_of_two_layers :
    beneath (fun _ => none) twoVariables disablingFlags =
      .ok { zones := [" is1a ","","tk1a"], disabledCollectors := ["bill"] } ∧
    load (fun _ => none) twoVariables disablingFlags =
      .ok { token := "t", secret := "s", zones := ["is1a","tk1a"], disabledCollectors := ["bill","coupon"],
            debug := true } := by
  have hb : beneath (fun _ => none) twoVariables disablingFlags =
      .ok { zones := [" is1a ","","tk1a"], disabledCollectors := ["bill"] } := by decide +kernel
  obtain ⟨-,hload,-,-⟩ := load_accepts_merged hb
  refine ⟨hb,(hload _).mpr ⟨mergedFrom_iff.mpr ?_,fault?_eq_none_iff.mp ?_⟩⟩
  · decide +kernel
  · decide +kernel

end CloudMetrics.Config.Settings
