import CloudMetrics.Proofs.HostBlanks
import CloudMetrics.Url.Basic
import Mathlib.Data.List.TakeWhile

/-!
# Authorities

Behind its scheme only the authority can make a text no URL, so whether a text is one is a matter of its
beginning. What follows the beginning counts where it changes how that is read: a slash keeps the blanks
before it in the text, and it may be one of the slashes that announce an authority; blanks lengthen an
authority that reaches to the end, and no special scheme's authority may end in one.
-/
namespace CloudMetrics.Url

open Text

/-- A text as it is read when more than blanks follow it. -/
def lead (cs : List Char) : List Char := (cs.dropWhile isEdgeBlank).filter fun c => !isBreak c

theorem dropWhile_append_cons {p : Char → Bool} {c : Char} (hc : ¬p c) (cs ds : List Char) :
    (cs ++ c :: ds).dropWhile p = cs.dropWhile p ++ c :: ds := by
  rw [List.dropWhile_append,List.dropWhile_cons_of_neg hc]
  split
  · next h => simp [List.isEmpty_iff.mp h]
  · rfl

theorem takeWhile_append_cons {p : Char → Bool} {c : Char} (hc : ¬p c) (cs ds : List Char) :
    (cs ++ c :: ds).takeWhile p = cs.takeWhile p := by
  induction cs with
  | nil => exact List.takeWhile_cons_of_neg hc
  | cons d cs ih => simp only [List.cons_append,List.takeWhile_cons,ih]

theorem lead_append_slash (cs ds : List Char) :
    lead (cs ++ '/' :: ds) = lead cs ++ '/' :: ds.filter fun c => !isBreak c := by
  rw [lead,dropWhile_append_cons (by decide),List.filter_append,List.filter_cons_of_pos (by decide)]
  rfl

/-- Blanks at the end of a text stay where something else follows them. -/
theorem exists_clean_append_slash (cs ds : List Char) :
    ∃ es, clean (cs ++ '/' :: ds) = lead cs ++ '/' :: es := by
  have hend : ((cs ++ '/' :: ds).dropWhile isEdgeBlank).reverse =
      ds.reverse ++ '/' :: (cs.dropWhile isEdgeBlank).reverse := by
    rw [dropWhile_append_cons (by decide)]
    simp
  refine ⟨(ds.reverse.dropWhile isEdgeBlank).reverse.filter fun c => !isBreak c,?_⟩
  rw [clean,hend,dropWhile_append_cons (by decide),List.reverse_append,List.reverse_cons,List.reverse_reverse,
    List.append_assoc,List.singleton_append,List.filter_append,List.filter_cons_of_pos (by decide)]
  rfl

/-- A text is what is left of it and the row that is dropped at its end. -/
theorem reverse_dropWhile_append (p : Char → Bool) (cs : List Char) :
    (cs.reverse.dropWhile p).reverse ++ (cs.reverse.takeWhile p).reverse = cs := by
  rw [← List.reverse_append,List.takeWhile_append_dropWhile,List.reverse_reverse]

/-- What reading drops at the end of a text are blanks. -/
theorem exists_lead_eq (cs : List Char) : ∃ bs, (∀ b ∈ bs, isEdgeBlank b) ∧ lead cs = clean cs ++ bs := by
  let bs := ((cs.dropWhile isEdgeBlank).reverse.takeWhile isEdgeBlank).reverse
  refine ⟨bs.filter fun c => !isBreak c,?_,?_⟩
  · intro b hb
    exact List.mem_takeWhile_imp (List.mem_reverse.mp (List.mem_filter.mp hb).1)
  · rw [clean,← List.filter_append,reverse_dropWhile_append]
    rfl

theorem lead_append_slashes (cs : List Char) (n : ℕ) :
    lead (cs ++ List.replicate n '/') = lead cs ++ List.replicate n '/' := by
  cases n with
  | zero => simp
  | succ n => rw [List.replicate_succ,lead_append_slash,List.filter_replicate_of_pos (by decide)]

theorem cutScheme_eq_some {cs scheme r : List Char} :
    cutScheme cs = some (scheme,r) ↔
      ∃ name, cs = name ++ ':' :: r ∧ (∀ c ∈ name, isSchemeChar c) ∧ name.head?.any Char.isAlpha ∧
        name.map Char.toLower = scheme := by
  constructor
  · intro h
    simp only [cutScheme] at h
    split at h
    · cases h
    · next c hc =>
      split at h
      · next halpha =>
        split at h
        · next r' hr =>
          cases h
          refine ⟨cs.takeWhile isSchemeChar,?_,fun _ => List.mem_takeWhile_imp,?_,rfl⟩
          · rw [← hr,List.takeWhile_append_dropWhile]
          · rw [List.head?_takeWhile,hc]
            simp [Option.filter,isSchemeChar,Char.isAlphanum,halpha]
        · cases h
      · cases h
  · rintro ⟨name,rfl,hname,hhead,rfl⟩
    cases name with
    | nil => simp at hhead
    | cons c name =>
      have halpha : c.isAlpha := by simpa using hhead
      have hcolon : ¬isSchemeChar ':' := by decide
      simp only [cutScheme,List.cons_append,List.head?_cons,halpha,if_true]
      rw [← List.cons_append,List.dropWhile_append_of_pos hname,List.takeWhile_append_of_pos hname,
        List.dropWhile_cons_of_neg hcolon,List.takeWhile_cons_of_neg hcolon,List.append_nil]
      rfl

theorem cutScheme_append {cs scheme r : List Char} (h : cutScheme cs = some (scheme,r)) (ds : List Char) :
    cutScheme (cs ++ ds) = some (scheme,r ++ ds) := by
  obtain ⟨name,rfl,hname⟩ := cutScheme_eq_some.mp h
  exact cutScheme_eq_some.mpr ⟨name,by simp,hname⟩

theorem cutScheme_append_slash (cs ds : List Char) :
    cutScheme (cs ++ '/' :: ds) = (cutScheme cs).map fun p => (p.1,p.2 ++ '/' :: ds) := by
  cases h : cutScheme cs with
  | some p => exact cutScheme_append h _
  | none =>
    rw [Option.map_none,← Option.not_isSome_iff_eq_none,Option.isSome_iff_exists]
    rintro ⟨⟨scheme,r⟩,h'⟩
    obtain ⟨name,hcs,hname,hscheme⟩ := cutScheme_eq_some.mp h'
    rcases List.append_eq_append_iff.mp hcs with ⟨as,hn,hr⟩ | ⟨bs,hn,hr⟩
    · cases as with
      | nil => simp at hr
      | cons a as =>
        have ha : '/' ∈ name := by
          obtain ⟨rfl,-⟩ := List.cons.inj hr
          simp [hn]
        exact absurd (hname _ ha) (by decide)
    · cases bs with
      | nil => simp at hr
      | cons b bs =>
        obtain ⟨rfl,-⟩ := List.cons.inj hr
        rw [cutScheme_eq_some.mpr ⟨name,hn,hname,hscheme⟩] at h
        cases h

/-- The special schemes but that of files. -/
def isWeb (scheme : List Char) : Bool := isSpecial scheme && scheme ≠ "file".toList

/-- The text behind the slashes that announce an authority, where there are such slashes. -/
def announced? (scheme r : List Char) : Option (List Char) :=
  if isWeb scheme then some (r.dropWhile (isSlash true))
  else match r with
    | a :: b :: r => if isSlash (isSpecial scheme) a && isSlash (isSpecial scheme) b then some r else none
    | _ => none

/-- The authority in a text that follows the colon of a scheme, and the text after it. -/
def authority? (scheme r : List Char) : Option (List Char × List Char) :=
  (announced? scheme r).map fun r =>
    (r.takeWhile (!endsAuthority (isSpecial scheme) ·),r.dropWhile (!endsAuthority (isSpecial scheme) ·))

/-- Whether a text is an authority when another text follows it. -/
def Fits (scheme a rest : List Char) : Prop :=
  if scheme = "file".toList then a = [] ∨ isDriveLetter a ∨ (readHost a).isOk
  else (readAuthority scheme a rest).isOk

theorem isOk_map {ε α β : Type} (f : α → β) (x : Except ε α) : (x.map f).isOk = x.isOk := by
  cases x <;> rfl

theorem isSpecial_of_isWeb {scheme : List Char} (h : isWeb scheme) : isSpecial scheme := by
  rw [isWeb,Bool.and_eq_true] at h
  exact h.1

theorem announced?_of_isWeb {scheme : List Char} (h : isWeb scheme) (r : List Char) :
    announced? scheme r = some (r.dropWhile (isSlash true)) := if_pos h

theorem isSpecial_file : isSpecial "file".toList := by decide

theorem exists_cutScheme_of_isOk {cs : List Char} (h : (parseList cs).isOk) :
    ∃ scheme r, cutScheme (clean cs) = some (scheme,r) := by
  cases hcut : cutScheme (clean cs) with
  | none => simp [parseList,hcut,Except.isOk,Except.toBool] at h
  | some p => exact ⟨p.1,p.2,rfl⟩

theorem announced?_file (r : List Char) :
    announced? "file".toList r = match r with
      | a :: b :: r => if isSlash true a && isSlash true b then some r else none
      | _ => none := rfl

theorem isOk_parseFile (r : List Char) :
    (parseFile r).isOk ↔ ∀ p ∈ authority? "file".toList r, Fits "file".toList p.1 p.2 := by
  rw [authority?,announced?_file,isSpecial_file]
  rcases r with _ | ⟨a,_ | ⟨b,r⟩⟩
  · exact iff_of_true rfl nofun
  · exact iff_of_true rfl nofun
  · by_cases hslash : isSlash true a && isSlash true b
    · simp only [hslash,if_true,Option.map_some,Option.mem_some_iff,forall_eq',Fits,parseFile,Bool.not_true,
        Bool.false_eq_true,if_false]
      split
      · next hbare =>
        rw [Bool.or_eq_true,List.isEmpty_iff] at hbare
        exact iff_of_true rfl (hbare.imp_right Or.inl)
      · next hbare =>
        rw [Bool.or_eq_true,List.isEmpty_iff,not_or] at hbare
        rw [isOk_map,or_iff_right hbare.1,or_iff_right hbare.2]
    · simp only [hslash,Bool.false_eq_true,if_false,Option.map_none,parseFile,Bool.not_false,if_true]
      exact iff_of_true rfl nofun

theorem announced?_of_not_special {scheme : List Char} (hs : ¬isSpecial scheme) (r : List Char) :
    announced? scheme r = match r with
      | '/' :: '/' :: r => some r
      | _ => none := by
  simp only [announced?,isWeb,hs,Bool.false_and,Bool.false_eq_true,if_false]
  rcases r with _ | ⟨a,_ | ⟨b,r⟩⟩
  · rfl
  · simp
  · by_cases ha : a = '/' <;> by_cases hb : b = '/' <;> simp [isSlash,ha,hb]

/-- Behind a scheme only the authority can make a text no URL. -/
theorem isOk_parseList {cs scheme r : List Char} (hcut : cutScheme (clean cs) = some (scheme,r)) :
    (parseList cs).isOk ↔ ∀ p ∈ authority? scheme r, Fits scheme p.1 p.2 := by
  rw [parseList,hcut]
  by_cases hfile : scheme = "file".toList
  · rw [hfile]
    exact isOk_parseFile r
  by_cases hspecial : isSpecial scheme
  · have hweb : isWeb scheme := by
      rw [isWeb,hspecial,Bool.true_and]
      exact decide_eq_true hfile
    simp only [hfile,hspecial,hweb,authority?,announced?,Fits,if_true,if_false,Option.map_some,
      Option.mem_some_iff,forall_eq',isOk_map]
  · rw [authority?,announced?_of_not_special hspecial]
    simp only [hfile,hspecial,Bool.false_eq_true,if_false,Fits]
    split
    · simp only [Option.map_some,Option.mem_some_iff,forall_eq',isOk_map]
    · next r hno =>
      split
      · next r' hr => exact absurd hr (by simpa using hno r')
      · exact iff_of_true rfl (by simp)
    · next r hno hno' =>
      split
      · next r' => exact absurd rfl (hno r')
      · exact iff_of_true rfl (by simp)

theorem scheme_of_map_withTail {α : Type} {x : Except Fault α} {scheme : List Char} {url : Url}
    {a : α → Authority} {path : List Char → List Char} {tail : α → List Char}
    (h : x.map (fun v => withTail scheme (a v) path (tail v)) = .ok url) : url.scheme = scheme := by
  cases x with
  | error f => cases h
  | ok v =>
    cases h
    rfl

theorem scheme_of_parseFile {r : List Char} {url : Url} (h : parseFile r = .ok url) :
    url.scheme = "file".toList := by
  simp only [parseFile] at h
  rcases r with _ | ⟨a,_ | ⟨b,r⟩⟩
  · cases h
    rfl
  · cases h
    rfl
  · dsimp only at h
    split at h
    · cases h
      rfl
    · split at h
      · cases h
        rfl
      · exact scheme_of_map_withTail h

theorem scheme_of_parseList {cs : List Char} {url : Url} (h : parseList cs = .ok url) :
    ∃ r, cutScheme (clean cs) = some (url.scheme,r) := by
  rw [parseList] at h
  split at h
  · cases h
  · next scheme r hcut =>
    refine ⟨r,?_⟩
    suffices hscheme : url.scheme = scheme by rw [hcut,hscheme]
    by_cases hfile : scheme = "file".toList
    · rw [if_pos hfile] at h
      rw [scheme_of_parseFile h,hfile]
    · simp only [hfile,if_false] at h
      by_cases hspecial : isSpecial scheme
      · rw [if_pos hspecial] at h
        exact scheme_of_map_withTail h
      · rw [if_neg hspecial] at h
        split at h
        · exact scheme_of_map_withTail h
        · cases h
          rfl
        · cases h
          rfl

/-- Whether a text behind a scheme is too short to announce an authority, or all announcement. -/
def IsBare (scheme r : List Char) : Prop :=
  (∀ c ∈ r, isSlash (isSpecial scheme) c) ∧ (isWeb scheme ∨ r.length ≤ 1)

instance (scheme r : List Char) : Decidable (IsBare scheme r) :=
  inferInstanceAs (Decidable ((∀ c ∈ r, isSlash (isSpecial scheme) c) ∧ (isWeb scheme ∨ r.length ≤ 1)))

theorem announced?_append_slash {scheme r : List Char} (h : ¬IsBare scheme r) (ds : List Char) :
    announced? scheme (r ++ '/' :: ds) = (announced? scheme r).map (· ++ '/' :: ds) := by
  by_cases hweb : isWeb scheme
  · have hne : r.dropWhile (isSlash true) ≠ [] := by
      intro hnil
      exact h ⟨by rwa [isSpecial_of_isWeb hweb,← List.dropWhile_eq_nil_iff],Or.inl hweb⟩
    rw [announced?_of_isWeb hweb,announced?_of_isWeb hweb,List.dropWhile_append,Option.map_some,
      if_neg (by rwa [List.isEmpty_iff])]
  · rcases r with _ | ⟨a,_ | ⟨b,r⟩⟩
    · exact absurd ⟨nofun,Or.inr (by simp)⟩ h
    · have ha : ¬isSlash (isSpecial scheme) a := fun ha => h ⟨by simpa using ha,Or.inr (by simp)⟩
      simp [announced?,hweb,ha]
    · simp only [announced?,hweb,List.cons_append,Bool.false_eq_true,if_false]
      split <;> rfl

theorem authority?_append_slash {scheme r : List Char} (h : ¬IsBare scheme r) (ds : List Char) :
    authority? scheme (r ++ '/' :: ds) = (authority? scheme r).map fun p => (p.1,p.2 ++ '/' :: ds) := by
  have hstop : ¬(fun c => !endsAuthority (isSpecial scheme) c) '/' := by simp [endsAuthority,isSlash]
  rw [authority?,authority?,announced?_append_slash h,Option.map_map,Option.map_map]
  congr 1
  funext r
  rw [Function.comp_apply,Function.comp_apply,takeWhile_append_cons hstop,dropWhile_append_cons hstop]

theorem readAuthority_congr {scheme rest rest' : List Char} (h : isSpecial scheme ∨ rest.isEmpty = rest'.isEmpty)
    (a : List Char) : readAuthority scheme a rest = readAuthority scheme a rest' := by
  rcases h with h | h
  · simp only [readAuthority,h,Bool.true_or]
  · simp only [readAuthority,mayLackHost,h]

/-- Of the text behind it an authority only knows whether it is empty, and a special scheme's not even that. -/
theorem fits_congr {scheme rest rest' : List Char} (h : isSpecial scheme ∨ rest.isEmpty = rest'.isEmpty)
    (a : List Char) : Fits scheme a rest ↔ Fits scheme a rest' := by
  rw [Fits,Fits,readAuthority_congr h]

/-- An open bracket is no authority. -/
theorem not_fits_bracket (scheme rest : List Char) : ¬Fits scheme ['['] rest := by
  rw [Fits]
  split
  · decide
  · cases hs : isSpecial scheme <;> simp only [readAuthority,hs] <;> exact Bool.false_ne_true

theorem exists_announced_bracket {scheme r : List Char} (h : IsBare scheme r) :
    ∃ zone, zone.filter (fun c => !isBreak c) = zone ∧
      ∀ es, announced? scheme (r ++ '/' :: (zone ++ '/' :: es)) = some ('[' :: '/' :: es) := by
  obtain ⟨hslash,hlength⟩ := h
  by_cases hweb : isWeb scheme
  · rw [isSpecial_of_isWeb hweb] at hslash
    refine ⟨['['],by decide,fun es => ?_⟩
    rw [announced?_of_isWeb hweb,List.dropWhile_append_of_pos hslash]
    rfl
  · rcases r with _ | ⟨a,_ | ⟨b,r⟩⟩
    · refine ⟨['/','['],by decide,fun es => ?_⟩
      simp [announced?,hweb,isSlash]
    · have ha := hslash a (List.mem_singleton_self a)
      have hnext : isSlash (isSpecial scheme) '/' := by simp [isSlash]
      refine ⟨['['],by decide,fun es => ?_⟩
      simp [announced?,hweb,ha,hnext]
    · have hlt := hlength.resolve_left hweb
      simp at hlt

theorem ne_of_blank {c d : Char} (hc : isEdgeBlank c) (hd : ¬isEdgeBlank d) : c ≠ d := by
  rintro rfl
  exact hd hc

theorem not_isSlash_of_blank {c : Char} (hc : isEdgeBlank c) (special : Bool) : ¬isSlash special c := by
  have hslash : c ≠ '/' := ne_of_blank hc (by decide)
  have hback : c ≠ '\\' := ne_of_blank hc (by decide)
  simp [isSlash,hslash,hback]

theorem not_endsAuthority_of_blank {c : Char} (hc : isEdgeBlank c) (special : Bool) :
    ¬endsAuthority special c := by
  have hquery : c ≠ '?' := ne_of_blank hc (by decide)
  have hfragment : c ≠ '#' := ne_of_blank hc (by decide)
  simp [endsAuthority,not_isSlash_of_blank hc,hquery,hfragment]

theorem announced?_append_blanks {bs : List Char} (hbs : ∀ b ∈ bs, isEdgeBlank b) (scheme r : List Char) :
    announced? scheme (r ++ bs) = (announced? scheme r).map (· ++ bs) := by
  by_cases hweb : isWeb scheme
  · have hstay : bs.dropWhile (isSlash true) = bs := by
      cases bs with
      | nil => rfl
      | cons b bs => exact List.dropWhile_cons_of_neg (not_isSlash_of_blank (hbs b (by simp)) true)
    rw [announced?_of_isWeb hweb,announced?_of_isWeb hweb,Option.map_some,List.dropWhile_append,hstay]
    split
    · next hnil => rw [List.isEmpty_iff.mp hnil,List.nil_append]
    · rfl
  · rcases r with _ | ⟨a,_ | ⟨b,r⟩⟩
    · rcases bs with _ | ⟨c,_ | ⟨d,bs⟩⟩
      · simp [announced?,hweb]
      · simp [announced?,hweb]
      · simp [announced?,hweb,not_isSlash_of_blank (hbs c (by simp))]
    · cases bs with
      | nil => simp [announced?,hweb]
      | cons c bs => simp [announced?,hweb,not_isSlash_of_blank (hbs c (by simp))]
    · simp only [announced?,hweb,List.cons_append,Bool.false_eq_true,if_false]
      split <;> rfl

/-- Blanks at the end of a text belong to the authority if it reaches to the end. -/
theorem authority?_append_blanks {bs : List Char} (hbs : ∀ b ∈ bs, isEdgeBlank b) (scheme r : List Char) :
    authority? scheme (r ++ bs) = (authority? scheme r).map fun p =>
      if p.2.isEmpty then (p.1 ++ bs,[]) else (p.1,p.2 ++ bs) := by
  rw [authority?,authority?,announced?_append_blanks hbs,Option.map_map,Option.map_map]
  congr 1
  funext r
  let inside := fun c => !endsAuthority (isSpecial scheme) c
  have hin : ∀ b ∈ bs, inside b := by
    intro b hb
    simp [inside,not_endsAuthority_of_blank (hbs b hb)]
  change ((r ++ bs).takeWhile inside,(r ++ bs).dropWhile inside) =
    if (r.dropWhile inside).isEmpty then (r.takeWhile inside ++ bs,[])
    else (r.takeWhile inside,r.dropWhile inside ++ bs)
  by_cases hend : r.dropWhile inside = []
  · have hr : ∀ c ∈ r, inside c := List.dropWhile_eq_nil_iff.mp hend
    simp [hend,List.takeWhile_append_of_pos hr,List.dropWhile_append_of_pos hr,List.takeWhile_eq_self_iff.mpr hin,
      List.dropWhile_eq_nil_iff.mpr hin,List.takeWhile_eq_self_iff.mpr hr]
  · have hlength : ¬(r.takeWhile inside).length = r.length := by
      have hsum := congrArg List.length (List.takeWhile_append_dropWhile (p := inside) (l := r))
      have hpos := List.length_pos_of_ne_nil hend
      rw [List.length_append] at hsum
      omega
    simp [hend,List.takeWhile_append,List.dropWhile_append,hlength]

theorem cutUserinfo_append (a : List Char) {c : Char} (hc : c ≠ '@') :
    ∃ u, (∀ d ∈ u, d ∈ a) ∧ (cutUserinfo (a ++ [c])).2 = u ++ [c] := by
  rw [cutUserinfo]
  split
  · refine ⟨(a.reverse.takeWhile (· ≠ '@')).reverse,?_,?_⟩
    · intro d hd
      exact List.mem_reverse.mp (List.takeWhile_subset _ (List.mem_reverse.mp hd))
    · simp [hc]
  · exact ⟨a,fun _ hd => hd,rfl⟩

theorem cutHost_append (inside : Bool) (cs : List Char) :
    (cutHost inside cs).1 ++ (cutHost inside cs).2 = cs ∧
      ∀ c ∈ (cutHost inside cs).2.head?, c = ':' := by
  fun_induction cutHost inside cs with
  | case1 => simp
  | case2 => simp_all
  | case3 inside c r hc h rest hr ih => simp_all

/-- The end of a text stands in its host or in its port. -/
theorem cutHost_concat (u : List Char) {c : Char} (hc : c ≠ ':') :
    cutHost false (u ++ [c]) = (u ++ [c],[]) ∨
      ∃ h v, cutHost false (u ++ [c]) = (h,':' :: (v ++ [c])) ∧ ∀ d ∈ v, d ∈ u := by
  obtain ⟨hsplit,hcolon⟩ := cutHost_append false (u ++ [c])
  obtain ⟨h,portText,hcut⟩ : ∃ h portText, cutHost false (u ++ [c]) = (h,portText) := ⟨_,_,rfl⟩
  simp only [hcut] at hsplit hcolon ⊢
  rcases List.eq_nil_or_concat portText with rfl | ⟨w,d,rfl⟩
  · rw [List.append_nil] at hsplit
    rw [hsplit]
    exact Or.inl rfl
  · rw [List.concat_eq_append] at hsplit hcolon
    obtain ⟨rfl,rfl⟩ : h ++ w = u ∧ d = c := by simpa [← List.append_assoc] using hsplit
    cases w with
    | nil => exact absurd (hcolon d rfl) hc
    | cons e v =>
      obtain rfl : e = ':' := hcolon e rfl
      refine Or.inr ⟨h,v,by simp,?_⟩
      intro f hf
      simp [hf]

theorem isOk_of_readAuthority {scheme a rest : List Char} (hs : isSpecial scheme)
    (h : (readAuthority scheme a rest).isOk) :
    (readHost (cutHost false (cutUserinfo a).2).1).isOk ∧
      (readPort scheme (((cutHost false (cutUserinfo a).2).2.drop 1).takeWhile (· ≠ '\\'))).isOk := by
  simp only [readAuthority,hs,if_true,Bool.true_or,Bool.and_true] at h
  split at h
  · cases h
  · cases hhost : readHost (cutHost false (cutUserinfo a).2).1 with
    | error f =>
      rw [hhost] at h
      cases h
    | ok host =>
      rw [hhost] at h
      cases hport : readPort scheme
          (((cutHost false (cutUserinfo a).2).2.drop 1).takeWhile (· ≠ '\\')) with
      | error f =>
        rw [hport] at h
        cases h
      | ok port => exact ⟨rfl,rfl⟩

theorem readPort_of_blank_end (scheme cs : List Char) {c : Char} (hc : isEdgeBlank c) :
    readPort scheme (cs ++ [c]) = .error .invalidPort := by
  have hdigit : c.isDigit = false := by
    refine blank_of_forall (P := fun c => c.isDigit = false) (by decide) ?_
    simpa [isEdgeBlank] using hc
  simp [readPort,hdigit]

theorem not_isDriveLetter_of_blank_end (a : List Char) {c : Char} (hc : isEdgeBlank c) :
    ¬isDriveLetter (a ++ [c]) := by
  have hcolon : c ≠ ':' := ne_of_blank hc (by decide)
  have hbar : c ≠ '|' := ne_of_blank hc (by decide)
  rcases a with _ | ⟨x,_ | ⟨y,a⟩⟩ <;> simp [isDriveLetter,hcolon,hbar]

/-- A special scheme's authority has no blank at its end. -/
theorem not_fits_of_blank_end {scheme a : List Char} {c : Char} (hc : isEdgeBlank c) (hs : isSpecial scheme)
    (ha : ∀ d ∈ a, !endsAuthority true d) (rest : List Char) : ¬Fits scheme (a ++ [c]) rest := by
  have hhost (cs : List Char) : ¬(readHost (cs ++ [c])).isOk := by
    obtain ⟨f,hf⟩ := readHost_of_blank_end cs (by simpa [isEdgeBlank] using hc)
    rw [hf]
    exact Bool.false_ne_true
  rw [Fits]
  split
  · rintro (hnil | hdrive | hok)
    · simp at hnil
    · exact not_isDriveLetter_of_blank_end a hc hdrive
    · exact hhost a hok
  · intro hok
    obtain ⟨hhostok,hportok⟩ := isOk_of_readAuthority hs hok
    obtain ⟨u,hu,huser⟩ := cutUserinfo_append a (ne_of_blank hc (by decide))
    rw [huser] at hhostok hportok
    rcases cutHost_concat u (ne_of_blank hc (by decide)) with hcut | ⟨h,v,hcut,hv⟩
    · rw [hcut] at hhostok
      exact hhost u hhostok
    · have hplain : ∀ d ∈ v ++ [c], decide (d ≠ '\\') := by
        intro d hd
        rw [decide_eq_true_eq]
        rcases List.mem_append.mp hd with hd | hd
        · rintro rfl
          exact absurd (ha _ (hu _ (hv _ hd))) (by decide)
        · rw [List.mem_singleton.mp hd]
          exact ne_of_blank hc (by decide)
      rw [hcut,List.drop_succ_cons,List.drop_zero,List.takeWhile_eq_self_iff.mpr hplain,
        readPort_of_blank_end scheme v hc] at hportok
      exact Bool.false_ne_true hportok

theorem inside_of_authority? {scheme r : List Char} {p : List Char × List Char} (h : p ∈ authority? scheme r) :
    ∀ c ∈ p.1, !endsAuthority (isSpecial scheme) c := by
  obtain ⟨v,-,rfl⟩ := Option.map_eq_some_iff.mp h
  exact fun c hc => List.mem_takeWhile_imp (p := fun c => !endsAuthority (isSpecial scheme) c) hc

end CloudMetrics.Url
