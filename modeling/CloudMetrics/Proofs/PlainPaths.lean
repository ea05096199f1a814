import CloudMetrics.Proofs.Authorities
import CloudMetrics.Proofs.VariableTexts

/-!
# Plain paths

A path of letters, digits, minus signs, underscores and points stands in a URL as it is written, unless one of
its segments is a point or two. Behind the address of this machine it is all that is read of a URL beside
the port.
-/
namespace CloudMetrics.Url

open Text

/-- What names are made of. -/
def isNameChar (c : Char) : Bool := c.isAlphanum || c = '-' || c = '_'

/-- What paths of names are made of. -/
def isPlain (c : Char) : Bool := isNameChar c || c = '.' || c = '/'

variable {c d : Char} {cs ds w : List Char}

theorem ne_of_isPlain (h : isPlain c) (hd : isPlain d = false) : c ≠ d := by
  rintro rfl
  exact absurd (h.symm.trans hd) (by decide)

theorem isPlain_of_isNameChar (h : isNameChar c) : isPlain c := by simp [isPlain,h]

theorem isPlain_of_isDigit (h : c.isDigit) : isPlain c := by simp [isPlain,isNameChar,Char.isAlphanum,h]

theorem toNat_of_isPlain (h : isPlain c) : 0x20 < c.toNat ∧ c.toNat ≤ 0x7E := by
  have hbetween (lo hi : Char) (hlo : lo.val ≤ c.val) (hhi : c.val ≤ hi.val)
      (hbounds : 0x20 < lo.toNat ∧ hi.toNat ≤ 0x7E) : 0x20 < c.toNat ∧ c.toNat ≤ 0x7E :=
    ⟨Nat.lt_of_lt_of_le hbounds.1 (UInt32.le_iff_toNat_le.mp hlo),
      Nat.le_trans (UInt32.le_iff_toNat_le.mp hhi) hbounds.2⟩
  have hcases : (c.isUpper || c.isLower || c.isDigit || c = '-' || c = '_' || c = '.' || c = '/') = true := h
  simp only [Bool.or_eq_true,decide_eq_true_eq] at hcases
  rcases hcases with (((((hupper | hlower) | hdigit) | rfl) | rfl) | rfl) | rfl
  · obtain ⟨hlo,hhi⟩ := of_decide_eq_true hupper
    exact hbetween 'A' 'Z' hlo hhi (by decide)
  · obtain ⟨hlo,hhi⟩ := Bool.and_eq_true_iff.mp hlower
    exact hbetween 'a' 'z' (of_decide_eq_true hlo) (of_decide_eq_true hhi) (by decide)
  · have hrange := Char.isDigit_iff_toNat.mp hdigit
    exact ⟨Nat.lt_of_lt_of_le (by decide) hrange.1,Nat.le_trans hrange.2 (by decide)⟩
  all_goals decide

theorem not_inPath_of_isPlain (h : isPlain c) : inPath c = false := by
  have hbounds := toNat_of_isPlain h
  have hne (d : Char) (hd : isPlain d = false) : c ≠ d := ne_of_isPlain h hd
  simp [inPath,inFragment,isControl,hne ' ' (by decide),hne '"' (by decide),hne '<' (by decide),hne '>' (by decide),
    hne '\x60' (by decide),hne '#' (by decide),hne '?' (by decide),hne '\x7b' (by decide),hne '\x7d' (by decide)]
  omega

theorem percentEncode_of_isPlain (h : ∀ c ∈ cs, isPlain c) : percentEncode inPath cs = cs := by
  induction cs with
  | nil => rfl
  | cons c cs ih =>
    obtain ⟨hc,hcs⟩ := List.forall_mem_cons.mp h
    rw [percentEncode] at ih ⊢
    rw [List.flatMap_cons,ih hcs,percentChar,not_inPath_of_isPlain hc]
    rfl

theorem clean_of_isPlain (h : ∀ c ∈ cs, isPlain c ∨ c = ':') : clean cs = cs := by
  have hblank : ∀ c ∈ cs, ¬isEdgeBlank c := by
    intro c hc
    rcases h c hc with hc | rfl
    · have hbounds := toNat_of_isPlain hc
      simp only [isEdgeBlank,decide_eq_true_eq]
      omega
    · decide
  have hbreak : ∀ c ∈ cs, (!isBreak c) = true := by
    intro c hc
    rcases h c hc with hc | rfl
    · have hne (d : Char) (hd : isPlain d = false) : c ≠ d := ne_of_isPlain hc hd
      simp [isBreak,hne '\t' (by decide),hne '\n' (by decide),hne '\r' (by decide)]
    · decide
  have hstart : cs.dropWhile isEdgeBlank = cs := by
    cases cs with
    | nil => rfl
    | cons c cs => exact List.dropWhile_cons_of_neg (hblank c List.mem_cons_self)
  have hend : cs.reverse.dropWhile isEdgeBlank = cs.reverse := by
    cases hcs : cs.reverse with
    | nil => rfl
    | cons c ds =>
      have hc : c ∈ cs := List.mem_reverse.mp (hcs ▸ List.mem_cons_self)
      exact List.dropWhile_cons_of_neg (hblank c hc)
  rw [clean,hstart,hend,List.reverse_reverse,List.filter_eq_self.mpr hbreak]

/-- Whether no segment of a text is a point or two, and its characters are plain. -/
structure IsPlainPath (cs : List Char) : Prop where
  plain : ∀ c ∈ cs, isPlain c
  not_dots : ∀ w ∈ cs.splitOn '/', w ≠ ['.'] ∧ w ≠ ['.','.']

theorem isSlash_of_isPlain (h : isPlain c) : isSlash true c = (c == '/') := by
  have hbackslash : c ≠ '\\' := ne_of_isPlain h (by decide)
  simp [isSlash,hbackslash,beq_eq_decide]

/-- Without escapes a segment is its own plain text. -/
theorem plainPoints_of_isPlain (h : ∀ c ∈ w, isPlain c) : plainPoints w = w := by
  induction w with
  | nil => rfl
  | cons c w ih =>
    obtain ⟨hc,hw⟩ := List.forall_mem_cons.mp h
    have hpercent : c ≠ '%' := ne_of_isPlain hc (by decide)
    rw [plainPoints,ih hw]
    · exact fun _ hr => absurd hr hpercent
    · exact fun _ hr => absurd hr hpercent

theorem foldSegments_of_not_dots {acc ws : List (List Char)}
    (h : ∀ w ∈ ws, isDoubleDot w = false ∧ isSingleDot w = false) : foldSegments acc ws = acc.reverse ++ ws := by
  induction ws generalizing acc with
  | nil => rw [foldSegments,List.append_nil]
  | cons w ws ih =>
    obtain ⟨⟨hdouble,hsingle⟩,hws⟩ := List.forall_mem_cons.mp h
    rw [foldSegments]
    simp [hdouble,hsingle,ih hws]

/-- Segments, each behind a slash. -/
theorem flatMap_slash {ws : List (List Char)} (h : ws ≠ []) :
    ws.flatMap ('/' :: ·) = '/' :: List.intercalate ['/'] ws := by
  induction ws with
  | nil => exact absurd rfl h
  | cons w ws ih =>
    cases ws with
    | nil => simp
    | cons v ws =>
      rw [List.flatMap_cons,ih (List.cons_ne_nil v ws),List.intercalate_cons_cons]
      simp

theorem splitBy_congr {p q : Char → Bool} (h : ∀ c ∈ cs, p c = q c) : splitBy p cs = splitBy q cs := by
  induction cs with
  | nil => rfl
  | cons c cs ih =>
    obtain ⟨hc,hcs⟩ := List.forall_mem_cons.mp h
    rw [splitBy,splitBy,hc,ih hcs]

/-- The segments of a path, each behind a slash, are the path behind a slash. -/
theorem flatMap_splitOn (cs : List Char) : (cs.splitOn '/').flatMap ('/' :: ·) = '/' :: cs := by
  rw [flatMap_slash (List.splitOn_ne_nil _ _),List.intercalate_splitOn]

theorem mem_of_mem_splitOn (hw : w ∈ cs.splitOn '/') (hc : c ∈ w) : c ∈ '/' :: cs := by
  rw [← flatMap_splitOn]
  exact List.mem_flatMap.mpr ⟨w,hw,List.mem_cons_of_mem _ hc⟩

theorem readPath_of_isPlainPath (h : IsPlainPath cs) : readPath true ('/' :: cs) = '/' :: cs := by
  have hsplit : splitBy (isSlash true) cs = cs.splitOn '/' := by
    rw [splitBy_congr fun c hc => isSlash_of_isPlain (h.plain c hc),Config.splitBy_eq_splitOnP,List.splitOn]
  have hplain : ∀ w ∈ cs.splitOn '/', ∀ c ∈ w, isPlain c := by
    intro w hw c hc
    rcases List.mem_cons.mp (mem_of_mem_splitOn hw hc) with rfl | hc
    · rfl
    · exact h.plain c hc
  have hencode : (cs.splitOn '/').map (percentEncode inPath) = cs.splitOn '/' :=
    calc
      (cs.splitOn '/').map (percentEncode inPath) = (cs.splitOn '/').map id :=
        List.map_congr_left fun w hw => percentEncode_of_isPlain (hplain w hw)
      _ = cs.splitOn '/' := List.map_id _
  have hdots : ∀ w ∈ cs.splitOn '/', isDoubleDot w = false ∧ isSingleDot w = false := by
    intro w hw
    obtain ⟨hsingle,hdouble⟩ := h.not_dots w hw
    rw [isDoubleDot,isSingleDot,plainPoints_of_isPlain (hplain w hw)]
    exact ⟨decide_eq_false hdouble,decide_eq_false hsingle⟩
  rw [readPath,List.drop_one,List.tail_cons,hsplit]
  simp only [hencode,foldSegments_of_not_dots hdots,List.reverse_nil,List.nil_append]
  exact flatMap_splitOn cs

theorem IsPlainPath.append (h : IsPlainPath cs) (h' : IsPlainPath ds) : IsPlainPath (cs ++ '/' :: ds) := by
  constructor
  · intro c hc
    rcases List.mem_append.mp hc with hc | hc
    · exact h.plain c hc
    · rcases List.mem_cons.mp hc with rfl | hc
      · rfl
      · exact h'.plain c hc
  · intro w hw
    rw [List.splitOn_append_cons_self,List.mem_append] at hw
    exact hw.elim (h.not_dots w) (h'.not_dots w)

/-- Without points no segment is one. -/
theorem isPlainPath_of_names (h : ∀ c ∈ cs, isNameChar c ∨ c = '/') : IsPlainPath cs := by
  constructor
  · intro c hc
    rcases h c hc with hc | rfl
    · exact isPlain_of_isNameChar hc
    · rfl
  · intro w hw
    have hpoint : '.' ∉ w := by
      intro hmem
      rcases List.mem_cons.mp (mem_of_mem_splitOn hw hmem) with hslash | hmem
      · exact absurd hslash (by decide)
      · exact absurd (h _ hmem) (by decide)
    constructor
    · rintro rfl
      exact hpoint List.mem_cons_self
    · rintro rfl
      exact hpoint List.mem_cons_self

/-- The address of this machine as it is written, and as it is read. -/
def localAddress : List Char := "127.0.0.1".toList

theorem readHost_localAddress : readHost localAddress = .ok (.ipv4 2130706433) := by decide +kernel

theorem readPort_toDigits {port : ℕ} (h : port ≤ 65535) :
    readPort "http".toList (Nat.toDigits 10 port) = .ok (if port = 80 then none else some port) := by
  have hdigits : (Nat.toDigits 10 port).all Char.isDigit :=
    List.all_eq_true.mpr fun c hc => isDigit_of_mem_toDigits hc
  have hvalue : (Nat.toDigits 10 port).foldl (fun n c => 10*n+(c.toNat-48)) 0 = port := Nat.ofDigitChars_ten_toDigits
  have hdefault : defaultPort? "http".toList = some 80 := by decide
  have hempty : (Nat.toDigits 10 port).isEmpty = false := by simp [Nat.toDigits_ne_nil]
  rw [readPort,hdigits]
  simp only [hvalue,hdefault,hempty]
  rw [if_neg (by decide),if_neg (by omega)]
  by_cases hport : port = 80
  · simp [hport]
  · simp [hport]

theorem of_mem_localAuthority {port : ℕ} (h : c ∈ localAddress ++ ':' :: Nat.toDigits 10 port) :
    c ≠ '/' ∧ (isPlain c ∨ c = ':') := by
  rcases List.mem_append.mp h with hmem | hmem
  · have hall : localAddress.all fun c => c ≠ '/' && isPlain c := by decide
    have hc := List.all_eq_true.mp hall c hmem
    rw [Bool.and_eq_true,decide_eq_true_eq] at hc
    exact hc.imp_right .inl
  · rcases List.mem_cons.mp hmem with rfl | hmem
    · decide
    · have hdigit := isDigit_of_mem_toDigits hmem
      refine ⟨?_,.inl (isPlain_of_isDigit hdigit)⟩
      rintro rfl
      exact absurd hdigit (by decide)

theorem readAuthority_local {port : ℕ} (h : port ≤ 65535) (rest : List Char) :
    readAuthority "http".toList (localAddress ++ ':' :: Nat.toDigits 10 port) rest =
      .ok (⟨[],none,some (.ipv4 2130706433),if port = 80 then none else some port⟩,[]) := by
  have hat : cutUserinfo (localAddress ++ ':' :: Nat.toDigits 10 port) =
      (none,localAddress ++ ':' :: Nat.toDigits 10 port) := by
    rw [cutUserinfo,if_neg]
    rw [List.contains_iff_mem]
    exact fun hmem => absurd (of_mem_localAuthority hmem).2 (by decide)
  have hcolon : cutHost false (localAddress ++ ':' :: Nat.toDigits 10 port) =
      (localAddress,':' :: Nat.toDigits 10 port) := rfl
  have hdigits : ∀ c ∈ Nat.toDigits 10 port, decide (c ≠ '\\') = true := by
    intro c hc
    rw [decide_eq_true_eq]
    exact ne_of_isPlain (isPlain_of_isDigit (isDigit_of_mem_toDigits hc)) (by decide)
  have htake := List.takeWhile_eq_self_iff.mpr hdigits
  have hdrop := List.dropWhile_eq_nil_iff.mpr hdigits
  have hspecial : isSpecial "http".toList = true := by decide
  have hsome : localAddress.isEmpty = false := by decide
  rw [readAuthority]
  simp only [hat,hcolon,hspecial,hsome,List.drop_one,List.tail_cons,htake,hdrop]
  change (readHost localAddress >>= _) = _
  rw [readHost_localAddress]
  change (readPort "http".toList (Nat.toDigits 10 port) >>= _) = _
  rw [readPort_toDigits h]
  rfl

/-- An authority ends where the path begins. -/
theorem localAuthority_append (port : ℕ) (hstart : ∀ c ∈ cs.head?, c = '/') :
    (localAddress ++ ':' :: Nat.toDigits 10 port ++ cs).takeWhile (!endsAuthority true ·) =
        localAddress ++ ':' :: Nat.toDigits 10 port ∧
      (localAddress ++ ':' :: Nat.toDigits 10 port ++ cs).dropWhile (!endsAuthority true ·) = cs := by
  refine takeWhile_dropWhile_append (fun c hc => ?_) fun c hc => ?_
  · obtain ⟨hslash,hplain | rfl⟩ := of_mem_localAuthority hc
    · have hne (d : Char) (hd : isPlain d = false) : c ≠ d := ne_of_isPlain hplain hd
      simp [endsAuthority,isSlash,hslash,hne '\\' (by decide),hne '?' (by decide),hne '#' (by decide)]
    · decide
  · rw [hstart c hc]
    decide

theorem cutAt_of_not_mem (h : d ∉ cs) : cutAt d cs = (cs,none) := by
  have hall : ∀ c ∈ cs, decide (c ≠ d) = true := fun c hc => decide_eq_true fun hcd => h (hcd ▸ hc)
  rw [cutAt,List.dropWhile_eq_nil_iff.mpr hall]

theorem withTail_of_isPlain (scheme : List Char) (a : Authority) (path : List Char → List Char)
    (h : ∀ c ∈ cs, isPlain c) :
    withTail scheme a path cs = ⟨scheme,a.username,a.password,a.host,a.port,path cs,none,none⟩ := by
  have hfragment : '#' ∉ cs := fun hmem => absurd (h _ hmem) (by decide)
  have hquery : '?' ∉ cs := fun hmem => absurd (h _ hmem) (by decide)
  simp only [withTail,cutAt_of_not_mem hfragment,cutAt_of_not_mem hquery,Option.map_none]

theorem parseList_local {port : ℕ} (h : port ≤ 65535) (hstart : ∀ c ∈ cs.head?, c = '/')
    (hcs : ∀ c ∈ cs, isPlain c) :
    parseList ("http://".toList ++ (localAddress ++ ':' :: Nat.toDigits 10 port ++ cs)) =
      .ok { scheme := "http".toList, host := some (.ipv4 2130706433), port := if port = 80 then none else some port,
            path := rootedPath true cs } := by
  have hclean : clean ("http://".toList ++ (localAddress ++ ':' :: Nat.toDigits 10 port ++ cs)) =
      "http://".toList ++ (localAddress ++ ':' :: Nat.toDigits 10 port ++ cs) := by
    refine clean_of_isPlain fun c hc => ?_
    rcases List.mem_append.mp hc with hc | hc
    · have hall : "http://".toList.all fun c => isPlain c || c = ':' := by decide
      simpa using List.all_eq_true.mp hall c hc
    · rcases List.mem_append.mp hc with hc | hc
      · exact (of_mem_localAuthority hc).2
      · exact .inl (hcs c hc)
  have hcut : cutScheme ("http://".toList ++ (localAddress ++ ':' :: Nat.toDigits 10 port ++ cs)) =
      some ("http".toList,"//".toList ++ (localAddress ++ ':' :: Nat.toDigits 10 port ++ cs)) := rfl
  have hslashes : ("//".toList ++ (localAddress ++ ':' :: Nat.toDigits 10 port ++ cs)).dropWhile (isSlash true) =
      localAddress ++ ':' :: Nat.toDigits 10 port ++ cs := rfl
  have hspecial : isSpecial "http".toList = true := by decide
  have hfile : "http".toList ≠ "file".toList := by decide
  obtain ⟨hauthority,hrest⟩ := localAuthority_append port hstart
  rw [parseList,hclean,hcut]
  simp only [hspecial,hfile,if_true,if_false,hslashes,hauthority,hrest,readAuthority_local h]
  change Except.ok (withTail _ _ _ cs) = _
  rw [withTail_of_isPlain _ _ _ hcs]

theorem parseList_local_path {port : ℕ} (h : port ≤ 65535) (hcs : IsPlainPath cs) :
    parseList ("http://".toList ++ (localAddress ++ ':' :: Nat.toDigits 10 port ++ '/' :: cs)) =
      .ok { scheme := "http".toList, host := some (.ipv4 2130706433), port := if port = 80 then none else some port,
            path := '/' :: cs } := by
  have hstart : ∀ c ∈ ('/' :: cs).head?, c = '/' := fun c hc => (Option.some.inj hc).symm
  have hplain : ∀ c ∈ '/' :: cs, isPlain c := List.forall_mem_cons.mpr ⟨rfl,hcs.plain⟩
  have hpath : rootedPath true ('/' :: cs) = readPath true ('/' :: cs) := rfl
  rw [parseList_local h hstart hplain,hpath,readPath_of_isPlainPath hcs]

end CloudMetrics.Url
