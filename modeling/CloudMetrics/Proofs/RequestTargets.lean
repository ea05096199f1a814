import CloudMetrics.Proofs.PlainPaths
import CloudMetrics.Proofs.RootUrls
import CloudMetrics.Proofs.WrittenQueries

/-!
# Targets of requests

Below a root on this machine the path of a request is the root's path, the zone, the path of the API and the
call's own, as they are written, and its query is the text of an object. Nothing is lost on the way: what the
path is put together from stands between its slashes, and the text of the query is read from it again. So two
calls to monitors with one target are one call.
-/
namespace CloudMetrics.Cloud

open Json Text Time

/-- Letters, digits, minus signs and underscores, one of them at least. -/
structure IsName (s : String) : Prop where
  nonempty : s.toList ≠ []
  chars : ∀ c ∈ s.toList, Url.isNameChar c

instance (s : String) : Decidable (IsName s) :=
  decidable_of_iff (s.toList ≠ [] ∧ s.toList.all Url.isNameChar) (by
    rw [List.all_eq_true]
    exact ⟨fun h => ⟨h.1,h.2⟩,fun h => ⟨h.nonempty,h.chars⟩⟩)

/-- The path of a root without the slashes at its end. -/
structure IsRootPath (path : String) : Prop where
  start : ∀ c ∈ path.toList.head?, c = '/'
  names : ∀ c ∈ path.toList, Url.isNameChar c ∨ c = '/'
  stop : ∀ c ∈ path.toList.getLast?, c ≠ '/'

instance (path : String) : Decidable (IsRootPath path) :=
  decidable_of_iff (path.toList.head?.all (· = '/') ∧ path.toList.all (fun c => Url.isNameChar c || c = '/') ∧
      path.toList.getLast?.all (· ≠ '/')) (by
    simp only [Option.all_eq_true,List.all_eq_true,Bool.or_eq_true,decide_eq_true_eq]
    exact ⟨fun h => ⟨h.1,h.2.1,h.2.2⟩,fun h => ⟨h.start,h.names,h.stop⟩⟩)

/-- A root on this machine, with some slashes behind its path. -/
def localRoot (port : ℕ) (path : String) (slashes : ℕ) : String :=
  "http://127.0.0.1:" ++ toString port ++ path ++ String.ofList (List.replicate slashes '/')

variable {s : String} {c : Call}

theorem toList_toString_nat (n : ℕ) : (toString n).toList = Nat.toDigits 10 n := String.toList_ofList

theorem isName_toString (n : ℕ) : IsName (toString n) := by
  constructor
  · rw [toList_toString_nat]
    exact Nat.toDigits_ne_nil
  · intro c hc
    rw [toList_toString_nat] at hc
    simp [Url.isNameChar,Char.isAlphanum,isDigit_of_mem_toDigits hc]

theorem IsName.slash_not_mem (h : IsName s) : '/' ∉ s.toList := fun hmem => absurd (h.chars _ hmem) (by decide)

namespace Call

/-- The name in the path of a call, if there is one. -/
def id? : Call → Option String
  | .servers _ | .databases _ | .loadBalancers _ | .vpcRouters _ | .nfsAppliances _ | .internets _ | .autoBackups _
  | .archives .. | .proxyLbs _ | .authStatus => none
  | .serverCpu _ id _ | .interfaceTraffic _ id _ | .diskActivity _ id _ | .applianceCpu _ id _
  | .applianceTraffic _ id _ _ | .databaseDisk _ id _ | .databaseUsage _ id _ | .loadBalancerStatus _ id
  | .vpcRouterStatus _ id | .nfsFreeDisk _ id _ | .internetTraffic _ id _ | .proxyLbHealth _ id
  | .proxyLbConnections _ id _ => some id
  | .bills account | .coupons account => some account

/-- The segments of the path of a call. -/
def segments : Call → List String
  | .servers _ => ["server"]
  | .serverCpu _ id _ => ["server",id,"monitor"]
  | .interfaceTraffic _ id _ => ["interface",id,"monitor"]
  | .diskActivity _ id _ => ["disk",id,"monitor"]
  | .applianceCpu _ id _ => ["appliance",id,"cpu","monitor"]
  | .applianceTraffic _ id index _ => ["appliance",id,"interface",toString index,"monitor"]
  | .databases _ | .loadBalancers _ | .vpcRouters _ | .nfsAppliances _ => ["appliance"]
  | .databaseDisk _ id _ => ["appliance",id,"disk","0","monitor"]
  | .databaseUsage _ id _ => ["appliance",id,"database","monitor"]
  | .loadBalancerStatus _ id | .vpcRouterStatus _ id => ["appliance",id,"status"]
  | .nfsFreeDisk _ id _ => ["appliance",id,"nfs","monitor"]
  | .internets _ => ["internet"]
  | .internetTraffic _ id _ => ["internet",id,"monitor"]
  | .autoBackups _ | .proxyLbs _ => ["commonserviceitem"]
  | .archives .. => ["archive"]
  | .proxyLbHealth _ id => ["commonserviceitem",id,"health"]
  | .proxyLbConnections _ id _ => ["commonserviceitem",id,"activity","proxylb","monitor"]
  | .authStatus => ["auth-status"]
  | .bills account => ["bill","by-contract",account]
  | .coupons account => ["coupon",account]

theorem toList_path (c : Call) : c.path.toList = ['/'].intercalate (c.segments.map String.toList) := by
  unfold path
  cases c <;> simp [segments]

/-- Each segment is a name if the one that is not the API's own is. -/
theorem isName_of_mem_segments (h : ∀ id ∈ c.id?, IsName id) : ∀ s ∈ c.segments, IsName s := by
  cases c <;> simp only [segments,List.forall_mem_cons,List.not_mem_nil,false_implies,implies_true,and_true] <;>
    and_intros <;> first | exact h _ rfl | exact isName_toString _ | decide

theorem segments_ne_nil (c : Call) : c.segments ≠ [] := by
  cases c <;> exact List.cons_ne_nil _ _

/-- Names and slashes are all that the path of a call is made of. -/
theorem names_path (h : ∀ id ∈ c.id?, IsName id) : ∀ d ∈ c.path.toList, Url.isNameChar d ∨ d = '/' := by
  intro d hd
  have hne : c.segments.map String.toList ≠ [] := by simp [segments_ne_nil]
  have hmem : d ∈ '/' :: c.path.toList := List.mem_cons_of_mem _ hd
  rw [toList_path,← Url.flatMap_slash hne,List.mem_flatMap] at hmem
  obtain ⟨w,hw,hdw⟩ := hmem
  obtain ⟨s,hs,rfl⟩ := List.mem_map.mp hw
  rcases List.mem_cons.mp hdw with rfl | hdw
  · exact .inr rfl
  · exact .inl ((isName_of_mem_segments h s hs).chars d hdw)

end Call

namespace Client

variable {zone base path : String} {port n : ℕ}

theorem dropSlashes_append (h : ∀ c ∈ s.toList.getLast?, c ≠ '/') (n : ℕ) :
    dropSlashes (s ++ String.ofList (List.replicate n '/')) = s := by
  have hrow : ∀ c ∈ List.replicate n '/', decide (c = '/') = true := by
    intro c hc
    rw [List.eq_of_mem_replicate hc]
    rfl
  have hrest : ∀ c ∈ s.toList.reverse.head?, decide (c = '/') = false := by
    intro c hc
    rw [List.head?_reverse] at hc
    exact decide_eq_false (h c hc)
  rw [dropSlashes,String.toList_append,String.toList_ofList,List.reverse_append,List.reverse_replicate,
    (takeWhile_dropWhile_append hrow hrest).2,List.reverse_reverse,String.ofList_toList]

theorem dropSlashes_localRoot (h : IsRootPath base) :
    dropSlashes (localRoot port base n) = localRoot port base 0 := by
  have hzero : localRoot port base 0 = "http://127.0.0.1:" ++ toString port ++ base := String.append_empty
  have hlast : ∀ c ∈ ("http://127.0.0.1:" ++ toString port ++ base).toList.getLast?, c ≠ '/' := by
    intro c hc
    rw [String.toList_append,List.getLast?_append] at hc
    cases hbase : base.toList.getLast? with
    | some d =>
      rw [hbase] at hc
      exact h.stop c (hbase.trans hc)
    | none =>
      rw [hbase,String.toList_append,List.getLast?_append] at hc
      have hname := isName_toString port
      rw [List.getLast?_eq_some_getLast hname.nonempty] at hc
      have hmem : c ∈ (toString port).toList := by
        rw [← Option.some.inj hc]
        exact List.getLast_mem _
      rintro rfl
      exact absurd (hname.chars _ hmem) (by decide)
  rw [hzero]
  exact dropSlashes_append hlast n

theorem toList_localRoot (port : ℕ) (base : String) (n : ℕ) :
    (localRoot port base n).toList = "http://".toList ++ (Url.localAddress ++ ':' :: Nat.toDigits 10 port ++
      (base.toList ++ List.replicate n '/')) := by
  have haddress : "http://127.0.0.1:".toList = "http://".toList ++ (Url.localAddress ++ [':']) := by decide
  unfold localRoot
  simp only [String.toList_append,String.toList_ofList,toList_toString_nat,haddress,List.append_assoc,List.nil_append,
    List.cons_append]

/-- The text of the URL of a path in a zone. -/
theorem toList_endpoint (port : ℕ) (base zone path : String) :
    (localRoot port base 0 ++ "/" ++ zone ++ "/api/cloud/1.1/" ++ path).toList =
      "http://".toList ++ (Url.localAddress ++ ':' :: Nat.toDigits 10 port ++
        (base ++ "/" ++ zone ++ "/api/cloud/1.1/" ++ path).toList) := by
  simp only [String.toList_append,toList_localRoot,List.replicate_zero,List.append_nil,List.append_assoc]

theorem isOk_parse_localRoot (hport : port ≤ 65535) (hbase : IsRootPath base) (n : ℕ) :
    (Url.parse (localRoot port base n)).isOk := by
  have hstart : ∀ c ∈ (base.toList ++ List.replicate n '/').head?, c = '/' := by
    intro c hc
    cases hcs : base.toList with
    | nil =>
      rw [hcs,List.nil_append] at hc
      exact List.eq_of_mem_replicate (List.mem_of_mem_head? hc)
    | cons d cs =>
      rw [hcs] at hc
      exact hbase.start c (hcs ▸ hc)
  have hplain : ∀ c ∈ base.toList ++ List.replicate n '/', Url.isPlain c := by
    intro c hc
    rcases List.mem_append.mp hc with hc | hc
    · rcases hbase.names c hc with hname | rfl
      · exact Url.isPlain_of_isNameChar hname
      · rfl
    · rw [List.eq_of_mem_replicate hc]
      rfl
  rw [Url.parse,toList_localRoot,Url.parseList_local hport hstart hplain]
  rfl

/-- The path of a request is plain. -/
theorem exists_isPlainPath (hbase : IsRootPath base) (hzone : IsName zone)
    (hpath : ∀ c ∈ path.toList, Url.isNameChar c ∨ c = '/') :
    ∃ cs, (base ++ "/" ++ zone ++ "/api/cloud/1.1/" ++ path).toList = '/' :: cs ∧ Url.IsPlainPath cs := by
  have hapi : "/api/cloud".toList.all fun c => Url.isNameChar c || c = '/' := by decide
  have hplain : "1.1".toList.all Url.isPlain := by decide
  have hversion : Url.IsPlainPath "1.1".toList := ⟨List.all_eq_true.mp hplain,by decide⟩
  have hbelow : Url.IsPlainPath
      (zone.toList ++ "/api/cloud".toList ++ '/' :: ("1.1".toList ++ '/' :: path.toList)) := by
    refine .append (Url.isPlainPath_of_names fun c hc => ?_) (hversion.append (Url.isPlainPath_of_names hpath))
    rcases List.mem_append.mp hc with hc | hc
    · exact .inl (hzone.chars c hc)
    · simpa using List.all_eq_true.mp hapi c hc
  have htext : (base ++ "/" ++ zone ++ "/api/cloud/1.1/" ++ path).toList =
      base.toList ++ '/' :: (zone.toList ++ "/api/cloud".toList ++ '/' :: ("1.1".toList ++ '/' :: path.toList)) := by
    simp
  rw [htext]
  cases hcs : base.toList with
  | nil => exact ⟨_,rfl,hbelow⟩
  | cons d cs =>
    have hd : d = '/' := hbase.start d (by rw [hcs]; rfl)
    subst hd
    have hnames : ∀ c ∈ cs, Url.isNameChar c ∨ c = '/' :=
      fun c hc => hbase.names c (hcs ▸ List.mem_cons_of_mem _ hc)
    exact ⟨_,rfl,(Url.isPlainPath_of_names hnames).append hbelow⟩

/-- The URL of a request, part by part. -/
theorem endpoint_eq {client : Client} (hroot : client.root = localRoot port base 0) (hport : port ≤ 65535)
    (hbase : IsRootPath base) (hzone : IsName zone) (hpath : ∀ c ∈ path.toList, Url.isNameChar c ∨ c = '/')
    (query : Option Json) :
    client.endpoint zone path query = .ok
      { scheme := "http".toList, host := some (.ipv4 2130706433), port := if port = 80 then none else some port,
        path := (base ++ "/" ++ zone ++ "/api/cloud/1.1/" ++ path).toList, query := query.map encodeQuery } := by
  obtain ⟨cs,hcs,hplain⟩ := exists_isPlainPath hbase hzone hpath
  rw [endpoint,hroot,Url.parse,toList_endpoint,hcs,Url.parseList_local_path hport hplain]
  cases query with
  | none => rfl
  | some q => rfl

theorem new_localRoot {settings : ClientSettings} (hagent : isHeaderText settings.userAgent)
    (hroot : settings.rootUrl = localRoot port base n) (hport : port ≤ 65535) (hbase : IsRootPath base) :
    ∃ client, Client.new settings = .ok client ∧ client.root = localRoot port base 0 := by
  have hok : (Url.parse settings.rootUrl).isOk := by
    rw [hroot]
    exact isOk_parse_localRoot hport hbase n
  refine ⟨_,new_eq_ok settings hagent hok,?_⟩
  change dropSlashes settings.rootUrl = _
  rw [hroot,dropSlashes_localRoot hbase]

end Client

/-- The call to a monitor with some segments in its path. -/
def monitorOf? (zone : String) (w : Window) : List String → Option Call
  | ["server",id,"monitor"] => some (.serverCpu zone id w)
  | ["interface",id,"monitor"] => some (.interfaceTraffic zone id w)
  | ["disk",id,"monitor"] => some (.diskActivity zone id w)
  | ["internet",id,"monitor"] => some (.internetTraffic zone id w)
  | ["appliance",id,"cpu","monitor"] => some (.applianceCpu zone id w)
  | ["appliance",id,"database","monitor"] => some (.databaseUsage zone id w)
  | ["appliance",id,"nfs","monitor"] => some (.nfsFreeDisk zone id w)
  | ["appliance",id,"interface",index,"monitor"] => some (.applianceTraffic zone id (numeral index.toList) w)
  | ["appliance",id,"disk","0","monitor"] => some (.databaseDisk zone id w)
  | ["commonserviceitem",id,"activity","proxylb","monitor"] => some (.proxyLbConnections zone id w)
  | _ => none

theorem monitorOf?_segments {w : Window} (h : w ∈ c.window?) : monitorOf? c.zone w c.segments = some c := by
  have hindex (n : ℕ) : numeral (toString n).toList = n := by
    rw [toList_toString_nat]
    exact Nat.ofDigitChars_ten_toDigits
  cases c with
  | applianceTraffic zone id index window =>
    cases h
    exact congrArg (fun n => some (Call.applianceTraffic zone id n w)) (hindex index)
  | _ => cases h <;> rfl

theorem query?_of_window {w : Window} (h : w ∈ c.window?) : c.query? = some (Call.windowQuery w) := by
  cases c <;> cases h <;> rfl

/-- Paths of one zone and one call are the same. -/
theorem paths_inj {base zone zone' path path' : String} (hzone : IsName zone) (hzone' : IsName zone')
    (h : base ++ "/" ++ zone ++ "/api/cloud/1.1/" ++ path = base ++ "/" ++ zone' ++ "/api/cloud/1.1/" ++ path') :
    zone = zone' ∧ path = path' := by
  have htext (zone path : String) : (base ++ "/" ++ zone ++ "/api/cloud/1.1/" ++ path).toList =
      base.toList ++ '/' :: (zone.toList ++ '/' :: ("api/cloud/1.1/".toList ++ path.toList)) := by
    simp
  have hlists := congrArg String.toList h
  rw [htext,htext,List.append_cancel_left_eq,List.cons_inj_right,
    append_mark_inj hzone.slash_not_mem hzone'.slash_not_mem,List.append_cancel_left_eq] at hlists
  exact ⟨String.toList_inj.mp hlists.1,String.toList_inj.mp hlists.2⟩

/-- A path has its segments between its slashes. -/
theorem segments_inj {d : Call} (hc : ∀ id ∈ c.id?, IsName id) (hd : ∀ id ∈ d.id?, IsName id)
    (h : c.path = d.path) : c.segments = d.segments := by
  have hsplit {c : Call} (hc : ∀ id ∈ c.id?, IsName id) :
      c.path.toList.splitOn '/' = c.segments.map String.toList := by
    rw [Call.toList_path]
    refine List.splitOn_intercalate '/' (fun w hw => ?_) (by simp [Call.segments_ne_nil])
    obtain ⟨s,hs,rfl⟩ := List.mem_map.mp hw
    exact (Call.isName_of_mem_segments hc s hs).slash_not_mem
  have hlists := hsplit hc
  rw [h,hsplit hd] at hlists
  have hinj : Function.Injective String.toList := fun _ _ h => String.toList_inj.mp h
  exact (List.map_injective_iff.mpr hinj hlists).symm

/-- A call whose zone and name are names, and whose window is one between instants that there are. -/
structure Call.IsProper (c : Call) : Prop where
  zone : IsName c.zone
  id : ∀ id ∈ c.id?, IsName id
  window : ∀ w ∈ c.window?, w.start.IsTime ∧ w.stop.IsTime

theorem monitor_inj {base : String} {d : Call} (hc : c.IsProper) (hd : d.IsProper) {w w' : Window}
    (hw : w ∈ c.window?) (hw' : w' ∈ d.window?)
    (hpath : base ++ "/" ++ c.zone ++ "/api/cloud/1.1/" ++ c.path =
      base ++ "/" ++ d.zone ++ "/api/cloud/1.1/" ++ d.path)
    (hquery : Client.encodeQuery (Call.windowQuery w) = Client.encodeQuery (Call.windowQuery w')) : c = d := by
  obtain ⟨hzone,hcall⟩ := paths_inj hc.zone hd.zone hpath
  have hsegments := segments_inj hc.id hd.id hcall
  have hbytes : Utf8.encodeList (Call.windowQuery w).writeList = Utf8.encodeList (Call.windowQuery w').writeList :=
    Url.formEncode_injective hquery
  have hwindow := windowQuery_inj (hc.window w hw) (hd.window w' hw') hbytes
  have hc' := monitorOf?_segments hw
  rw [hzone,hsegments,hwindow,monitorOf?_segments hw'] at hc'
  exact (Option.some.inj hc').symm

/-- The path of a URL ends where the mark of its query stands. -/
theorem target_inj {u u' : Url} {text text' : List Char} (hquery : u.query = some text)
    (hquery' : u'.query = some text') (hpath : '?' ∉ u.path) (hpath' : '?' ∉ u'.path) (h : u.target = u'.target) :
    u.path = u'.path ∧ text = text' := by
  rw [Url.target,Url.target,hquery,hquery',String.ofList_inj] at h
  exact (append_mark_inj hpath hpath').mp h

theorem question_not_mem {base : String} (hbase : IsRootPath base) (hc : c.IsProper) :
    '?' ∉ (base ++ "/" ++ c.zone ++ "/api/cloud/1.1/" ++ c.path).toList := by
  obtain ⟨cs,hcs,hplain⟩ := Client.exists_isPlainPath hbase hc.zone (Call.names_path hc.id)
  rw [hcs,List.mem_cons]
  rintro (heq | hmem)
  · exact absurd heq (by decide)
  · exact absurd (hplain.plain _ hmem) (by decide)

/-- What requests below a root on this machine are: the path holds the root's path, the zone and the call's own
path as they are written, the query form-decodes to the compact text of its object, with the keys in order, and
this text is read again as what was asked for. Calls to monitors with one target are one call. -/
theorem request_targets_are_faithful {settings : ClientSettings} {port n : ℕ} {base : String}
    (hagent : isHeaderText settings.userAgent) (hport : port ≤ 65535) (hbase : IsRootPath base)
    (hroot : settings.rootUrl = localRoot port base n) :
    ∃ client, Client.new settings = .ok client ∧
      (∀ c : Call, c.IsProper → ∃ url, client.endpoint c.zone c.path c.query? = .ok url ∧
        (∀ network, client.api network c = Client.outcome c (network (client.request url))) ∧
        String.ofList url.path = base ++ "/" ++ c.zone ++ "/api/cloud/1.1/" ++ c.path ∧
        (c.query? = none → url.query = none) ∧
        ∀ q ∈ c.query?, ∃ text ∈ url.query, Url.formDecode text = Utf8.encode q.write ∧ q.IsSorted ∧
          Json.read .whole (Url.formDecode text) = .ok q ∧ c.IsAskedBy q) ∧
      ∀ c d : Call, c.IsProper → d.IsProper → c.window?.isSome → d.window?.isSome →
        (client.endpoint c.zone c.path c.query?).map Url.target =
          (client.endpoint d.zone d.path d.query?).map Url.target → c = d := by
  obtain ⟨client,hnew,hclient⟩ := Client.new_localRoot hagent hroot hport hbase
  have hurl (c : Call) (hc : c.IsProper) :=
    Client.endpoint_eq hclient hport hbase hc.zone (Call.names_path hc.id) c.query?
  refine ⟨client,hnew,fun c hc => ?_,fun c d hc hd hcw hdw htarget => ?_⟩
  · refine ⟨_,hurl c hc,fun network => ?_,String.ofList_toList,fun hnone => ?_,fun q hq => ?_⟩
    · rw [Client.api,hurl c hc]
      rfl
    · rw [hnone]
      rfl
    · obtain ⟨hsorted,hread,hasked⟩ := query_spec hq hc.window
      have hdecode : Url.formDecode (Client.encodeQuery q) = Utf8.encodeList q.writeList :=
        Url.formDecode_formEncode _
      have hwrite : Utf8.encode q.write = Utf8.encodeList q.writeList := by
        rw [Utf8.encode,Json.write,String.toList_ofList]
      refine ⟨Client.encodeQuery q,Option.mem_map_of_mem _ hq,hdecode.trans hwrite.symm,hsorted,?_,hasked⟩
      rwa [hdecode]
  · obtain ⟨w,hw⟩ := Option.isSome_iff_exists.mp hcw
    obtain ⟨w',hw'⟩ := Option.isSome_iff_exists.mp hdw
    rw [hurl c hc,hurl d hd,query?_of_window hw,query?_of_window hw'] at htarget
    obtain ⟨hpath,hquery⟩ := target_inj rfl rfl (question_not_mem hbase hc) (question_not_mem hbase hd)
      (Except.ok.inj htarget)
    exact monitor_inj hc hd hw hw' (String.toList_inj.mp hpath) hquery

theorem request_targets_are_faithful_of_two_monitors :
    ∃ client, Client.new { rootUrl := "http://127.0.0.1:8080/cloud/zone//" } = .ok client ∧
      (∃ url, client.endpoint "is1a" "appliance/7/interface/1/monitor"
          (some (Call.windowQuery ⟨⟨0,0⟩,⟨59,1000000000⟩⟩)) = .ok url ∧
        String.ofList url.path = "/cloud/zone/is1a/api/cloud/1.1/appliance/7/interface/1/monitor") ∧
      (client.endpoint "is1a" "appliance/7/interface/1/monitor"
          (some (Call.windowQuery ⟨⟨0,0⟩,⟨59,1000000000⟩⟩))).map Url.target ≠
        (client.endpoint "is1a" "appliance/7/interface/1/monitor"
          (some (Call.windowQuery ⟨⟨0,0⟩,⟨59,0⟩⟩))).map Url.target := by
  have hbase : IsRootPath "/cloud/zone" := by decide
  have hproper : (Call.applianceTraffic "is1a" "7" 1 ⟨⟨0,0⟩,⟨59,1000000000⟩⟩).IsProper := by
    refine ⟨by decide,by decide,?_⟩
    rintro w ⟨rfl⟩
    exact ⟨⟨by decide,by decide,by decide⟩,⟨by decide,by decide,by decide⟩⟩
  have hproper' : (Call.applianceTraffic "is1a" "7" 1 ⟨⟨0,0⟩,⟨59,0⟩⟩).IsProper := by
    refine ⟨by decide,by decide,?_⟩
    rintro w ⟨rfl⟩
    exact ⟨⟨by decide,by decide,by decide⟩,⟨by decide,by decide,by decide⟩⟩
  have hroot : "http://127.0.0.1:8080/cloud/zone//" = localRoot 8080 "/cloud/zone" 2 := by decide +kernel
  have hagent : isHeaderText ({} : ClientSettings).userAgent := by decide +kernel
  obtain ⟨client,hnew,hfaithful,hinj⟩ := @request_targets_are_faithful
    { rootUrl := "http://127.0.0.1:8080/cloud/zone//" } _ _ _ hagent (by decide) hbase hroot
  obtain ⟨url,hurl,-,hpath,-⟩ := hfaithful _ hproper
  refine ⟨client,hnew,⟨url,hurl,hpath⟩,fun htarget => ?_⟩
  exact absurd (hinj _ _ hproper hproper' rfl rfl htarget) (by decide)

end CloudMetrics.Cloud
