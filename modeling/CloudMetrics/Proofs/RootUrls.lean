import CloudMetrics.Cloud.Client
import CloudMetrics.Proofs.Authorities

/-!
# Roots and the URLs below them

A client refuses a root that is no URL, but its requests go to another text: the root without the slashes
at its end, and behind it a slash, a zone and a path. Two things that were forgiven at the end of the root
are not forgiven inside that text. A blank now ends the host or the port, and a root that has lost its
slashes down to the colon leaves its authority to the zone. All other roots do what they are checked for:
each request has a URL, or none has one.
-/
namespace CloudMetrics

namespace Url

open Text

/-- Whether a text ends before its authority could begin. -/
def EndsBare (cs : List Char) : Prop := ∃ p ∈ cutScheme (lead cs), IsBare p.1 p.2

/-- Whether a text's authority reaches to its end and ends in a blank. -/
def EndsInBlank (cs : List Char) : Prop :=
  ∃ p ∈ cutScheme (lead cs), ∃ q ∈ authority? p.1 p.2, q.2 = [] ∧ ∃ c ∈ q.1.getLast?, isEdgeBlank c

/-- Whether a text has a scheme, and its authority, if there is one, fits before a slash. -/
def TakesPath (cs : List Char) : Prop :=
  ∃ p ∈ cutScheme (lead cs), ∀ q ∈ authority? p.1 p.2, Fits p.1 q.1 ['/']

instance (cs : List Char) : Decidable (EndsBare cs) :=
  inferInstanceAs (Decidable (∃ p ∈ cutScheme (lead cs), IsBare p.1 p.2))

instance (cs : List Char) : Decidable (EndsInBlank cs) :=
  inferInstanceAs (Decidable (∃ p ∈ cutScheme (lead cs), ∃ q ∈ authority? p.1 p.2,
    q.2 = [] ∧ ∃ c ∈ q.1.getLast?, isEdgeBlank c))

variable {cs : List Char}

/-- Whether a text is a URL when a slash follows does not depend on what follows the slash. -/
theorem isOk_parseList_append_slash (h : ¬EndsBare cs) (ds : List Char) :
    (parseList (cs ++ '/' :: ds)).isOk ↔ TakesPath cs := by
  obtain ⟨es,hes⟩ := exists_clean_append_slash cs ds
  have hcut := cutScheme_append_slash (lead cs) es
  rw [← hes] at hcut
  cases hlead : cutScheme (lead cs) with
  | none =>
    rw [hlead,Option.map_none] at hcut
    have hno : ¬(parseList (cs ++ '/' :: ds)).isOk := by
      intro hok
      obtain ⟨scheme,r,hr⟩ := exists_cutScheme_of_isOk hok
      rw [hcut] at hr
      cases hr
    simp [TakesPath,hlead,hno]
  | some p =>
    obtain ⟨scheme,r⟩ := p
    rw [hlead,Option.map_some] at hcut
    have hbare : ¬IsBare scheme r := fun hb => h ⟨(scheme,r),hlead,hb⟩
    have hfits (q : List Char × List Char) : Fits scheme q.1 (q.2 ++ '/' :: es) ↔ Fits scheme q.1 ['/'] :=
      fits_congr (Or.inr (by simp)) q.1
    rw [isOk_parseList hcut,authority?_append_slash hbare,TakesPath,hlead]
    simp only [Option.mem_def,Option.map_eq_some_iff,forall_exists_index,and_imp,forall_apply_eq_imp_iff₂,
      Option.some.injEq,exists_eq_left',hfits]

/-- Where a text ends before its authority could begin, the next word may come to stand in its place. -/
theorem exists_not_isOk_of_endsBare (h : EndsBare cs) :
    ∃ zone, ∀ ds, ¬(parseList (cs ++ '/' :: (zone ++ '/' :: ds))).isOk := by
  obtain ⟨⟨scheme,r⟩,hcut,hbare⟩ := h
  obtain ⟨zone,hzone,hann⟩ := exists_announced_bracket hbare
  refine ⟨zone,fun ds hok => ?_⟩
  obtain ⟨es,hes⟩ := exists_clean_append_slash (cs ++ '/' :: zone) ds
  have hclean : clean (cs ++ '/' :: (zone ++ '/' :: ds)) = lead cs ++ '/' :: (zone ++ '/' :: es) := by
    simpa [lead_append_slash,hzone] using hes
  have hauth : authority? scheme (r ++ '/' :: (zone ++ '/' :: es)) = some (['['],'/' :: es) := by
    rw [authority?,hann]
    simp [endsAuthority,isSlash]
  have hcut' := cutScheme_append hcut ('/' :: (zone ++ '/' :: es))
  rw [← hclean] at hcut'
  exact not_fits_bracket scheme _ ((isOk_parseList hcut').mp hok _ hauth)

theorem not_endsInBlank_of_takesPath (hs : ∀ p ∈ cutScheme (lead cs), isSpecial p.1) (h : TakesPath cs) :
    ¬EndsInBlank cs := by
  rintro ⟨⟨scheme,r⟩,hcut,⟨a,rest⟩,hauth,-,c,hlast,hc⟩
  obtain ⟨p,hp,hall⟩ := h
  rw [hcut] at hp
  cases hp
  have hspecial := hs _ hcut
  obtain ⟨b,rfl⟩ := List.getLast?_eq_some_iff.mp hlast
  have hinside := inside_of_authority? hauth
  rw [hspecial] at hinside
  exact not_fits_of_blank_end hc hspecial (fun d hd => hinside d (by simp [hd])) _ (hall _ hauth)

/-- A URL is read without the blanks at its end, the text before a slash with them. -/
theorem takesPath_of_isOk (hs : ∀ p ∈ cutScheme (lead cs), isSpecial p.1) (hok : (parseList cs).isOk)
    (hblank : ¬EndsInBlank cs) : TakesPath cs := by
  obtain ⟨bs,hbs,hlead⟩ := exists_lead_eq cs
  obtain ⟨scheme,r,hcut⟩ := exists_cutScheme_of_isOk hok
  have hall := (isOk_parseList hcut).mp hok
  have hcut' := cutScheme_append hcut bs
  rw [← hlead] at hcut'
  have hspecial := hs _ hcut'
  refine ⟨(scheme,r ++ bs),hcut',fun q hq => ?_⟩
  have hq' := hq
  rw [authority?_append_blanks hbs] at hq'
  obtain ⟨p,hp,rfl⟩ := Option.map_eq_some_iff.mp hq'
  have hfits : Fits scheme p.1 ['/'] := (fits_congr (Or.inl hspecial) p.1).mp (hall p hp)
  by_cases hend : p.2.isEmpty
  · rw [if_pos hend] at hq ⊢
    rcases List.eq_nil_or_concat bs with rfl | ⟨ds,c,rfl⟩
    · simpa using hfits
    · exact absurd ⟨_,hcut',_,hq,rfl,c,by simp,hbs c (by simp)⟩ hblank
  · rwa [if_neg hend]

/-- What follows the scheme of a URL, without the blanks and without the slashes at its end. -/
theorem exists_append_eq {scheme r : List Char} {url : Url} {n : ℕ}
    (h : parseList (cs ++ List.replicate n '/') = .ok url) (hcut : cutScheme (lead cs) = some (scheme,r)) :
    scheme = url.scheme ∧ ∃ q bs, cutScheme (clean (cs ++ List.replicate n '/')) = some (scheme,q) ∧
      q ++ bs = r ++ List.replicate n '/' := by
  obtain ⟨bs,-,hlead⟩ := exists_lead_eq (cs ++ List.replicate n '/')
  obtain ⟨q,hq⟩ := scheme_of_parseList h
  have hread := cutScheme_append hq bs
  rw [← hlead,lead_append_slashes,cutScheme_append hcut,Option.some.injEq,Prod.mk.injEq] at hread
  obtain ⟨rfl,hr⟩ := hread
  exact ⟨rfl,q,bs,hq,hr.symm⟩

/-- On the web there is no URL without a host, so a root does not end before it. -/
theorem not_endsBare_of_isWeb {url : Url} {n : ℕ} (h : parseList (cs ++ List.replicate n '/') = .ok url)
    (hweb : isWeb url.scheme) : ¬EndsBare cs := by
  rintro ⟨⟨scheme,r⟩,hcut,hslash,-⟩
  obtain ⟨rfl,q,bs,hq,hqr⟩ := exists_append_eq h hcut
  rw [isSpecial_of_isWeb hweb] at hslash
  have hall : ∀ c ∈ q, isSlash true c := by
    intro c hc
    have hmem : c ∈ r ++ List.replicate n '/' := by
      rw [← hqr]
      exact List.mem_append_left bs hc
    rcases List.mem_append.mp hmem with hc | hc
    · exact hslash c hc
    · rw [List.eq_of_mem_replicate hc]
      rfl
  have hauth : authority? url.scheme q = some ([],[]) := by
    rw [authority?,announced?_of_isWeb hweb,List.dropWhile_eq_nil_iff.mpr hall]
    rfl
  have hok : (parseList (cs ++ List.replicate n '/')).isOk := by
    rw [h]
    rfl
  have hfits := (isOk_parseList hq).mp hok _ hauth
  have hfile : url.scheme ≠ "file".toList := by
    rw [isWeb,Bool.and_eq_true] at hweb
    exact of_decide_eq_true hweb.2
  rw [Fits,if_neg hfile] at hfits
  obtain ⟨hhost,-⟩ := isOk_of_readAuthority (isSpecial_of_isWeb hweb) hfits
  exact absurd hhost (by decide)

end Url

namespace Cloud.Client

open Url (EndsBare EndsInBlank TakesPath parseList)

/-- Whether each request of a client has a URL. -/
def HasEndpoints (client : Client) : Prop := ∀ zone path query, (client.endpoint zone path query).isOk

variable {s : ClientSettings} {client : Client} {url : Url}

theorem isOk_endpoint (client : Client) (zone path : String) (query : Option Json) :
    (client.endpoint zone path query).isOk =
      (parseList (client.root.toList ++
        '/' :: (zone.toList ++ '/' :: ("api/cloud/1.1/".toList ++ path.toList)))).isOk := by
  have htext : (client.root ++ "/" ++ zone ++ "/api/cloud/1.1/" ++ path).toList =
      client.root.toList ++ '/' :: (zone.toList ++ '/' :: ("api/cloud/1.1/".toList ++ path.toList)) := by
    simp
  rw [endpoint,Url.parse,htext]
  cases parseList (client.root.toList ++ _) <;> rfl

theorem hasEndpoints_iff_takesPath (client : Client) :
    client.HasEndpoints ↔ ¬EndsBare client.root.toList ∧ TakesPath client.root.toList := by
  simp only [HasEndpoints,isOk_endpoint]
  constructor
  · intro hall
    have hbare : ¬EndsBare client.root.toList := by
      intro hbare
      obtain ⟨zone,hzone⟩ := Url.exists_not_isOk_of_endsBare hbare
      have hok := hall (String.ofList zone) "" none
      rw [String.toList_ofList] at hok
      exact hzone _ hok
    exact ⟨hbare,(Url.isOk_parseList_append_slash hbare _).mp (hall "" "" none)⟩
  · rintro ⟨hbare,htakes⟩ zone path query
    exact (Url.isOk_parseList_append_slash hbare _).mpr htakes

theorem isOk_parse_root_iff (h : ¬EndsBare client.root.toList) :
    (Url.parse (client.root ++ "/")).isOk ↔ TakesPath client.root.toList := by
  rw [Url.parse,String.toList_append]
  exact Url.isOk_parseList_append_slash h []

theorem exists_dropSlashes (s : String) :
    ∃ n, s.toList = (dropSlashes s).toList ++ List.replicate n '/' := by
  let slashes := (s.toList.reverse.takeWhile fun c => decide (c = '/')).reverse
  have hslashes : slashes = List.replicate slashes.length '/' := by
    refine List.eq_replicate_iff.mpr ⟨rfl,fun c hc => ?_⟩
    exact of_decide_eq_true (List.mem_takeWhile_imp (p := fun c => decide (c = '/')) (List.mem_reverse.mp hc))
  refine ⟨slashes.length,?_⟩
  rw [← hslashes,dropSlashes,String.toList_ofList,Url.reverse_dropWhile_append]

theorem new_eq_ok (s : ClientSettings) (hagent : isHeaderText s.userAgent) (hroot : (Url.parse s.rootUrl).isOk) :
    Client.new s = .ok ⟨dropSlashes s.rootUrl,s.token,s.secret,s.timeoutMillis,s.userAgent⟩ := by
  cases hurl : Url.parse s.rootUrl with
  | error f =>
    rw [hurl] at hroot
    cases hroot
  | ok url => simp [Client.new,hagent,hurl]

theorem exists_root_of_new (h : Client.new s = .ok client) :
    ∃ n, s.rootUrl.toList = client.root.toList ++ List.replicate n '/' := by
  rw [Client.new] at h
  split at h
  · cases h
  · split at h
    · cases h
    · cases h
      exact exists_dropSlashes s.rootUrl

theorem takesPath_iff (hnew : Client.new s = .ok client) (hurl : Url.parse s.rootUrl = .ok url)
    (hspecial : Url.isSpecial url.scheme) (hbare : ¬EndsBare client.root.toList) :
    TakesPath client.root.toList ↔ ¬EndsInBlank client.root.toList := by
  obtain ⟨n,hroot⟩ := exists_root_of_new hnew
  rw [Url.parse,hroot] at hurl
  have hs : ∀ p ∈ Url.cutScheme (Url.lead client.root.toList), Url.isSpecial p.1 := by
    intro p hp
    rwa [(Url.exists_append_eq hurl hp).1]
  constructor
  · exact Url.not_endsInBlank_of_takesPath hs
  · intro hblank
    have hok : (parseList (client.root.toList ++ List.replicate n '/')).isOk := by
      rw [hurl]
      rfl
    cases n with
    | zero =>
      rw [List.replicate_zero,List.append_nil] at hok
      exact Url.takesPath_of_isOk hs hok hblank
    | succ n => exact (Url.isOk_parseList_append_slash hbare _).mp hok

/-- When each request of a client has a URL: the root must not be bare, and still be a URL when a slash
follows. Where the root names one of the special schemes, the latter says that no blank ends its authority
and the root, and a root for the web is never bare. -/
theorem requests_have_urls_iff (hnew : Client.new s = .ok client) (hurl : Url.parse s.rootUrl = .ok url) :
    (client.HasEndpoints ↔ ¬EndsBare client.root.toList ∧ (Url.parse (client.root ++ "/")).isOk) ∧
      (Url.isSpecial url.scheme →
        (client.HasEndpoints ↔ ¬EndsBare client.root.toList ∧ ¬EndsInBlank client.root.toList)) ∧
      (Url.isWeb url.scheme → (client.HasEndpoints ↔ ¬EndsInBlank client.root.toList)) := by
  have hspecial (hs : Url.isSpecial url.scheme) :
      client.HasEndpoints ↔ ¬EndsBare client.root.toList ∧ ¬EndsInBlank client.root.toList := by
    rw [hasEndpoints_iff_takesPath]
    exact and_congr_right (takesPath_iff hnew hurl hs)
  refine ⟨?_,hspecial,fun hweb => ?_⟩
  · rw [hasEndpoints_iff_takesPath]
    exact and_congr_right fun hbare => (isOk_parse_root_iff hbare).symm
  · obtain ⟨n,hroot⟩ := exists_root_of_new hnew
    rw [Url.parse,hroot] at hurl
    rw [hspecial (Url.isSpecial_of_isWeb hweb),and_iff_right (Url.not_endsBare_of_isWeb hurl hweb)]

theorem requests_have_urls_iff_at_default_root :
    ∃ client url, Client.new {} = .ok client ∧ Url.parse ({} : ClientSettings).rootUrl = .ok url ∧
      Url.isWeb url.scheme ∧ client.HasEndpoints := by
  have hweb : (Url.parse ({} : ClientSettings).rootUrl).toOption.any fun url => Url.isWeb url.scheme := by
    decide +kernel
  cases hurl : Url.parse ({} : ClientSettings).rootUrl with
  | error f =>
    rw [hurl] at hweb
    cases hweb
  | ok url =>
    rw [hurl] at hweb
    have hnew := new_eq_ok {} (by decide +kernel) (by rw [hurl]; rfl)
    exact ⟨_,url,hnew,rfl,hweb,((requests_have_urls_iff hnew hurl).2.2 hweb).mpr (by decide +kernel)⟩

/-- A root is not checked as its requests read it. -/
theorem a_blank_behind_the_port_is_accepted :
    ¬∀ s client, Client.new s = .ok client → ∀ zone path query, (client.endpoint zone path query).isOk := by
  intro h
  have hnew := new_eq_ok { rootUrl := "http://127.0.0.1:1 " } (by decide +kernel) (by decide +kernel)
  have hok := h _ _ hnew "is1a" "server" none
  revert hok
  decide +kernel

theorem outcome_ne_url (c : Call) (reply : Reply) (f : Url.Fault) : outcome c reply ≠ .error (.url f) := by
  cases reply with
  | lost => exact nofun
  | answered status body =>
    rw [outcome]
    split
    · split <;> nofun
    · nofun

/-- With a URL for each request no call ends for want of one. -/
theorem api_ne_url (h : client.HasEndpoints) (network : Network) (c : Call) (f : Url.Fault) :
    client.api network c ≠ .error (.url f) := by
  have hok := h c.zone c.path c.query?
  rw [api]
  cases hurl : client.endpoint c.zone c.path c.query? with
  | error e =>
    rw [hurl] at hok
    cases hok
  | ok url => exact outcome_ne_url c _ f

end Cloud.Client

end CloudMetrics
