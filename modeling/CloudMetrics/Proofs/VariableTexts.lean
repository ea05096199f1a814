import CloudMetrics.Proofs.MergedSettings
import CloudMetrics.Proofs.PrintedValues
import CloudMetrics.Proofs.SettingLayers

/-!
# Texts from the environment

A setting that is a text holds what its variable says if no flag goes before it, but as the value that the
variable reads as is printed. So it holds the variable's own text just when this is how the value is
printed. An accepted address has a colon in it and an accepted path a slash, which no printed value has.
-/
namespace CloudMetrics.Config

theorem mem_of_dropWhile_eq {test : Char → Bool} {cs rest : List Char} {c : Char}
    (h : cs.dropWhile test = rest) (hc : c ∈ rest) : c ∈ cs :=
  (List.dropWhile_sublist test).mem (h ▸ hc)

theorem colon_mem_of_readSocketAddress? {text : String} (h : (readSocketAddress? text).isSome) :
    ':' ∈ text.toList := by
  unfold readSocketAddress? at h
  split at h
  · next r hs =>
    split at h
    · next p hp =>
      rw [hs]
      exact List.mem_cons_of_mem _ (mem_of_dropWhile_eq hp (by simp))
    · cases h
  · split at h
    · next p hp => exact mem_of_dropWhile_eq hp (by simp)
    · cases h

inductive TextSetting where
  | token | secret | webaddr | webpath | apiRootUrl
deriving DecidableEq, Repr

namespace TextSetting

def key : TextSetting → String
  | token => "token"
  | secret => "secret"
  | webaddr => "webaddr"
  | webpath => "webpath"
  | apiRootUrl => "api_root_url"

def variableName : TextSetting → String
  | token => "SAKURACLOUD_EXPORTER_TOKEN"
  | secret => "SAKURACLOUD_EXPORTER_SECRET"
  | webaddr => "SAKURACLOUD_EXPORTER_WEBADDR"
  | webpath => "SAKURACLOUD_EXPORTER_WEBPATH"
  | apiRootUrl => "SAKURACLOUD_EXPORTER_API_ROOT_URL"

def flag (f : Flags) : TextSetting → Option String
  | token => f.token
  | secret => f.secret
  | webaddr => f.webaddr
  | webpath => f.webpath
  | apiRootUrl => f.apiRootUrl

def get (s : Settings) : TextSetting → String
  | token => s.token
  | secret => s.secret
  | webaddr => s.webaddr
  | webpath => s.webpath
  | apiRootUrl => s.apiRootUrl

/-- The settings that are accepted only with a mark in them that no printed value has. -/
def isMarked : TextSetting → Bool
  | webaddr | webpath => true
  | token | secret | apiRootUrl => false

variable {t : TextSetting} {base s : Settings} {f : Flags}

theorem isVariableOf (t : TextSetting) : IsVariableOf t.variableName t.key := by
  cases t <;> exact ⟨by decide +kernel,by decide +kernel,by decide +kernel,by decide +kernel⟩

theorem key_not_mem_listNames (t : TextSetting) : t.key ∉ listNames := by
  cases t <;> decide

theorem get_withFlags (h : t.flag f = none) : t.get (base.withFlags f) = t.get base := by
  cases t <;> exact congrArg (fun flag => Option.getD flag _) h

theorem setting_eq {v : Value} (h : Settings.ReadFrom v s) (t : TextSetting) :
    setting v t.key Value.asText? (t.get {}) = some (t.get s) := by
  cases t with
  | token => exact h.token
  | secret => exact h.secret
  | webaddr => exact h.webaddr
  | webpath => exact h.webpath
  | apiRootUrl => exact h.apiRootUrl

/-- An accepted address has a colon in it, and an accepted path a slash. -/
theorem exists_mark (ha : Settings.Acceptable s) (h : t.isMarked) :
    ∃ c ∈ (t.get s).toList, isPrintable c = false := by
  cases t with
  | webaddr => exact ⟨':',colon_mem_of_readSocketAddress? ha.address,by decide⟩
  | webpath => exact ⟨'/',List.mem_of_mem_head? ha.pathStart,by decide⟩
  | token | secret | apiRootUrl => cases h

end TextSetting

theorem isVariableOf_zones : IsVariableOf "SAKURACLOUD_EXPORTER_ZONES" "zones" :=
  ⟨by decide +kernel,by decide +kernel,by decide +kernel,by decide +kernel⟩

/-- Cutting a text at some characters is the library's cut. -/
theorem splitBy_eq_splitOnP (test : Char → Bool) (cs : List Char) : Text.splitBy test cs = cs.splitOnP test := by
  induction cs with
  | nil => rw [Text.splitBy,List.splitOnP_nil]
  | cons c cs ih =>
    rw [Text.splitBy,List.splitOnP_cons_eq_if_modifyHead,ih]
    cases hs : cs.splitOnP test with
    | nil => exact absurd hs (List.splitOnP_ne_nil test cs)
    | cons w ws => rfl

theorem splitCommas_eq (s : String) : splitCommas s = (s.toList.splitOn ',').map String.ofList := by
  rw [splitCommas,splitBy_eq_splitOnP,List.splitOn]
  rfl

/-- A list of texts is read from a variable that reads as no value of another kind, and it is cut at
commas. -/
theorem eq_splitCommas_of_asTexts? {key value : String} {texts : List String} (hkey : key ∈ listNames)
    (h : (readVariable key value).asTexts? = some texts) : texts = splitCommas value := by
  have hno : ∀ v, ¬Reads value v := by
    intro v hv
    rw [readVariable_of_reads key hv] at h
    cases hv <;> cases h
  rw [readVariable_of_not_reads key hno,if_pos hkey] at h
  have htexts : ((splitCommas value).map Value.text).mapM Value.asText? = some (splitCommas value) := by
    rw [List.mapM_map]
    exact (List.mapM_pure (m := Option) (f := id)).trans (congrArg some (List.map_id _))
  exact Option.some.inj (h.symm.trans htexts)

namespace Settings

variable {files : String → Option String} {env : Environment} {f : Flags} {s : Settings}

/-- The layers that loaded settings come from. -/
theorem exists_layers_of_load (h : load files env f = .ok s) :
    ∃ (base : Settings) (root : Value), s = base.withFlags f ∧ Acceptable s ∧
      ReadFrom (root.overlay (environmentEntries env)) base := by
  obtain ⟨base,hb,hs,ha⟩ := exists_beneath_of_load h
  rw [beneath] at hb
  cases hfile : readFile files f with
  | error e =>
    rw [hfile] at hb
    cases hb
  | ok document =>
    rw [hfile] at hb
    have hlayers : ofLayers document env = .ok base := hb
    obtain ⟨root,hroot⟩ := exists_readFrom_of_ofLayers hlayers
    exact ⟨base,root,hs,ha,hroot⟩

/-- A loaded text that a variable gives is the variable's own just when this text is printed as itself; a
whole number has no plus sign and no spare zero then. An address and a path are always the variable's own.
Zones are the parts between the commas, without blanks around them and without empty ones. -/
theorem given_texts_are_kept_iff (h : load files env f = .ok s) :
    (∀ (t : TextSetting) value, Gives env t.variableName value → t.flag f = none →
      (t.get s = value ↔ IsPrinted value) ∧
      (∀ n, readInt? value = some n → (t.get s = value ↔ value = "0" ∨
        ∃ d ds, d.isDigit ∧ d ≠ '0' ∧ (value.toList = d :: ds ∨ value.toList = '-' :: d :: ds))) ∧
      (t.isMarked → t.get s = value)) ∧
    (∀ value, Gives env "SAKURACLOUD_EXPORTER_ZONES" value → f.zones = [] →
      s.zones = ((value.toList.splitOn ',').map fun part => Text.trim (String.ofList part)).filter (· ≠ "")) := by
  obtain ⟨base,root,rfl,ha,hroot⟩ := exists_layers_of_load h
  constructor
  · intro t value hgives hflag
    have hmember := t.isVariableOf.member?_overlay hgives root
    have htext : (readVariable t.key value).asText? = some (t.get (base.withFlags f)) := by
      rw [TextSetting.get_withFlags hflag]
      exact (setting_of_member? hmember).symm.trans (t.setting_eq hroot)
    have hiff := asText?_readVariable_iff t.key_not_mem_listNames htext
    refine ⟨hiff,fun n hn => hiff.trans (isPrinted_whole_iff hn),fun hmarked => ?_⟩
    obtain ⟨c,hc,hmark⟩ := TextSetting.exists_mark ha hmarked
    exact eq_of_not_isPrintable t.key_not_mem_listNames htext hc hmark
  · intro value hgives hflag
    have hmember := isVariableOf_zones.member?_overlay hgives root
    have htexts : (readVariable "zones" value).asTexts? = some base.zones :=
      (setting_of_member? hmember).symm.trans hroot.zones
    have hparts : base.zones = (value.toList.splitOn ',').map String.ofList := by
      rw [eq_splitCommas_of_asTexts? (by decide) htexts,splitCommas_eq]
    rw [withFlags_zones,if_pos hflag,hparts,tidyZones,List.map_map]
    rfl

/-- Variables that give a token, a secret that is a whole number, a path and zones with gaps. -/
def givenTexts : Environment :=
  [("SAKURACLOUD_EXPORTER_TOKEN","1a-b2"),("SAKURACLOUD_EXPORTER_SECRET","-50"),
    ("SAKURACLOUD_EXPORTER_WEBPATH","/True"),("SAKURACLOUD_EXPORTER_ZONES"," is1a,,tk1a\t")]

theorem given_texts_are_kept_of_printed :
    ∃ s, load (fun _ => none) givenTexts {} = .ok s ∧ s.token = "1a-b2" ∧ IsPrinted "1a-b2" ∧
      s.secret = "-50" ∧ s.webpath = "/True" ∧ s.zones = ["is1a","tk1a"] := by
  have hload : load (fun _ => none) givenTexts {} =
      .ok { token := "1a-b2", secret := "-50", webpath := "/True", zones := ["is1a","tk1a"] } := by
    decide +kernel
  obtain ⟨htexts,hzones⟩ := given_texts_are_kept_iff hload
  have htoken := (htexts .token "1a-b2" ⟨[],_,rfl,by decide +kernel⟩ rfl).1.mp rfl
  have hsecret := ((htexts .secret "-50" ⟨givenTexts.take 1,_,rfl,by decide +kernel⟩ rfl).2.1 (-50)
    (by decide +kernel)).mpr (.inr ⟨'5',['0'],by decide,by decide,.inr (by decide)⟩)
  have hpath := (htexts .webpath "/True" ⟨givenTexts.take 2,_,rfl,by decide +kernel⟩ rfl).2.2 rfl
  have hset := hzones " is1a,,tk1a\t" ⟨givenTexts.take 3,_,rfl,by decide +kernel⟩ rfl
  exact ⟨_,hload,rfl,htoken,hsecret,hpath,hset.trans (by decide +kernel)⟩

/-- A token of digits loses the zeros before them. -/
theorem a_token_of_digits_is_not_kept :
    Gives [("SAKURACLOUD_EXPORTER_TOKEN","007")] "SAKURACLOUD_EXPORTER_TOKEN" "007" ∧
    ∃ s, load (fun _ => none) [("SAKURACLOUD_EXPORTER_TOKEN","007")] { secret := some "s" } = .ok s ∧
      s.token = "7" := by
  refine ⟨⟨[],[],rfl,nofun⟩,?_⟩
  have hload : load (fun _ => none) [("SAKURACLOUD_EXPORTER_TOKEN","007")] { secret := some "s" } =
      .ok { token := "7", secret := "s" } := by decide +kernel
  exact ⟨_,hload,rfl⟩

end Settings

end CloudMetrics.Config
