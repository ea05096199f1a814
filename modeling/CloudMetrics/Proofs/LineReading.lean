import CloudMetrics.Proofs.TextFormat
import Mathlib.Data.List.TakeWhile
import Mathlib.Data.String.Basic

/-!
# Reading written lines

A written line is made of words, which the reader takes as they are, and of escaped texts. The numbers on
it are such words. So each line of a family is read as what it was written from, and none has a line feed
inside.
-/
namespace CloudMetrics.Metrics.TextFormat

/-- Characters that nothing but a word contains. -/
def isPlain (c : Char) : Bool := !(isBlank c || c == '"' || isMark c || c == '#' || c == '\n')

abbrev Plain (cs : List Char) : Prop := ∀ c ∈ cs, isPlain c

section
variable {c : Char} {cs w rest : List Char}

theorem plain_of_all (h : cs.all isPlain) : Plain cs := List.all_eq_true.mp h

theorem plain_of_isAlphanum (h : c.isAlphanum) : isPlain c := by
  have hne : ∀ d : Char, d.isAlphanum = false → (c == d) = false := by
    intro d hd
    rw [beq_eq_false_iff_ne]
    rintro rfl
    simp [h] at hd
  simp [isPlain,isBlank,isMark,hne ' ' rfl,hne '\t' rfl,hne '"' rfl,hne '\x7b' rfl,hne '\x7d' rfl,
    hne '=' rfl,hne ',' rfl,hne '#' rfl,hne '\n' rfl]

theorem plain_of_isDigit (h : c.isDigit) : isPlain c :=
  plain_of_isAlphanum (by simp [Char.isAlphanum,h])

theorem Plain.append (h : Plain cs) (hw : Plain w) : Plain (cs ++ w) := by
  intro c hc
  rcases List.mem_append.mp hc with hc | hc
  · exact h c hc
  · exact hw c hc

theorem isBlank_of_isPlain (h : isPlain c) : isBlank c = false := by
  simp only [isPlain,Bool.not_eq_true',Bool.or_eq_false_iff] at h
  exact h.1.1.1.1

theorem Plain.not_newline_mem (h : Plain cs) : '\n' ∉ cs := fun hm => absurd (h _ hm) (by decide)

theorem mem_of_isName (h : isName cs) (hc : c ∈ cs) : c.isAlphanum ∨ c = '_' ∨ c = ':' := by
  cases cs with
  | nil => exact absurd hc List.not_mem_nil
  | cons d ds =>
    simp only [isName,Bool.and_eq_true,Bool.or_eq_true,beq_iff_eq,List.all_eq_true,or_assoc] at h
    rcases List.mem_cons.mp hc with rfl | hc
    · exact h.1.imp_left fun ha => by simp [Char.isAlphanum,ha]
    · exact h.2 c hc

theorem plain_of_isName (h : isName cs) : Plain cs := by
  intro c hc
  rcases mem_of_isName h hc with ha | rfl | rfl
  · exact plain_of_isAlphanum ha
  · rfl
  · rfl

/-- Names of labels are names without colons. -/
theorem isName_of_isLabelName (h : isLabelName cs) : isName cs := by
  cases cs with
  | nil => exact h
  | cons d ds =>
    simp only [isLabelName,isName,Bool.and_eq_true,Bool.or_eq_true,List.all_eq_true] at h ⊢
    exact ⟨.inl h.1,fun c hc => .inl (h.2 c hc)⟩

theorem ne_nil_of_isName (h : isName cs) : cs ≠ [] := by
  rintro rfl
  simp [isName] at h

theorem nextWord_blank (w rest : List Char) (hw : Plain w) (hne : w ≠ []) :
    nextWord (' ' :: (w ++ ' ' :: rest)) = (w,' ' :: rest) := by
  have hword : ∀ c ∈ w, (!isBlank c) = true := fun c hc => by simp [isBlank_of_isPlain (hw c hc)]
  have hstart : (' ' :: (w ++ ' ' :: rest)).dropWhile isBlank = w ++ ' ' :: rest := by
    obtain ⟨c,w,rfl⟩ := List.exists_cons_of_ne_nil hne
    have hc := isBlank_of_isPlain (hw c List.mem_cons_self)
    simp only [List.cons_append]
    rw [List.dropWhile_cons_of_pos rfl,List.dropWhile_cons_of_neg (by simp [hc])]
  have hrest : (' ' :: rest).takeWhile (!isBlank ·) = [] ∧
      (' ' :: rest).dropWhile (!isBlank ·) = ' ' :: rest := ⟨rfl,rfl⟩
  simp only [nextWord,hstart,List.takeWhile_append_of_pos hword,List.dropWhile_append_of_pos hword,
    hrest,List.append_nil]

theorem tokens_word (h : Plain cs) : tokens (.word w) (cs ++ rest) = tokens (.word (w ++ cs)) rest := by
  induction cs generalizing w with
  | nil => simp
  | cons c cs ih =>
    have hc := h c List.mem_cons_self
    simp only [isPlain,Bool.not_eq_true',Bool.or_eq_false_iff,beq_eq_false_iff_ne] at hc
    obtain ⟨⟨⟨⟨hblank,hquote⟩,hmark⟩,-⟩,-⟩ := hc
    rw [List.cons_append,tokens,if_neg (by simp [hblank]),if_neg hquote,if_neg (by simp [hmark]),
      ih fun d hd => h d (List.mem_cons_of_mem _ hd),List.append_assoc]
    rfl

theorem wordToken_eq (h : w ≠ []) : wordToken w = [.word w] := by simp [wordToken,h]

theorem tokens_word_nil (hw : Plain w) (hne : w ≠ []) : tokens (.word []) w = some [.word w] := by
  have h : tokens (.word []) (w ++ []) = tokens (.word w) [] := tokens_word hw
  rwa [List.append_nil,tokens,wordToken_eq hne] at h

theorem tokens_blank : tokens (.word w) (' ' :: rest) = (tokens (.word []) rest).map (wordToken w ++ ·) := by
  have hblank : isBlank ' ' = true := rfl
  rw [tokens,if_pos hblank]

theorem tokens_word_blank (hw : Plain w) (hne : w ≠ []) :
    tokens (.word []) (w ++ ' ' :: rest) = (tokens (.word []) rest).map (.word w :: ·) := by
  rw [tokens_word hw,List.nil_append,tokens_blank,wordToken_eq hne]
  rfl

/-- What begins as a word does is read as a sample. -/
theorem readLine_word (hw : Plain w) (hne : w ≠ []) :
    readLine (w ++ rest) = ((tokens (.word []) (w ++ rest)).bind readSample).map some := by
  obtain ⟨c,w,rfl⟩ := List.exists_cons_of_ne_nil hne
  have hc := hw c List.mem_cons_self
  have hhash : c ≠ '#' := by
    rintro rfl
    exact absurd hc (by decide)
  rw [List.cons_append,readLine,List.dropWhile_cons_of_neg (by simp [isBlank_of_isPlain hc])]
  exact if_neg hhash

theorem tokens_word_mark (hw : Plain w) (hc : isMark c) :
    tokens (.word []) (w ++ c :: rest) =
      (tokens (.word []) rest).map fun ts => wordToken w ++ .mark c :: ts := by
  have hblank : isBlank c = false := by
    simp only [isMark,Bool.or_eq_true,beq_iff_eq] at hc
    rcases hc with ((rfl | rfl) | rfl) | rfl <;> rfl
  have hquote : c ≠ '"' := by
    rintro rfl
    exact absurd hc (by decide)
  rw [tokens_word hw,List.nil_append,tokens,if_neg (by simp [hblank]),if_neg hquote,if_pos hc]

theorem tokens_mark (hc : isMark c) :
    tokens (.word []) (c :: rest) = (tokens (.word []) rest).map (.mark c :: ·) :=
  tokens_word_mark (fun _ hd => absurd hd List.not_mem_nil) hc

end

theorem unescapeHelp_escaped (cs : List Char) : unescapeHelp false (cs.flatMap escapeHelp) = some cs := by
  induction cs with
  | nil => rfl
  | cons c cs ih =>
    rw [List.flatMap_cons,escapeHelp]
    split
    · next h => simp [unescapeHelp,helpEscape?,ih,h]
    · next hb =>
      split
      · next h => simp [unescapeHelp,helpEscape?,ih,h]
      · simp [unescapeHelp,ih,hb]

theorem tokens_escaped (v cs rest : List Char) :
    tokens (.quoted v) (cs.flatMap escapeValue ++ '"' :: rest) =
      (tokens (.word []) rest).map (.quoted (v ++ cs) :: ·) := by
  induction cs generalizing v with
  | nil => simp [tokens]
  | cons c cs ih =>
    rw [List.flatMap_cons,List.append_assoc,escapeValue,escapeHelp]
    split
    · next h => simp [tokens,valueEscape?,ih,h]
    · next hq =>
      split
      · next h => simp [tokens,valueEscape?,helpEscape?,ih,h]
      · next hb =>
        split
        · next h => simp [tokens,valueEscape?,helpEscape?,ih,h]
        · simp [tokens,ih,hq,hb]

theorem not_newline_mem_escapeHelp (c : Char) : '\n' ∉ escapeHelp c := by
  rw [escapeHelp]
  split
  · decide
  · split
    · decide
    · next hn => exact fun hm => hn (List.mem_singleton.mp hm).symm

theorem not_newline_mem_escapeValue (c : Char) : '\n' ∉ escapeValue c := by
  rw [escapeValue]
  split
  · decide
  · exact not_newline_mem_escapeHelp c

section
variable {c : Char} {cs : List Char}

theorem isDigits_iff : isDigits cs ↔ cs ≠ [] ∧ ∀ c ∈ cs, c.isDigit := by simp [isDigits]

theorem isDigits_toDigits (n : Nat) : isDigits (Nat.toDigits 10 n) :=
  isDigits_iff.mpr ⟨Nat.toDigits_ne_nil,fun _ => Nat.isDigit_of_mem_toDigits (by decide) (by decide)⟩

theorem plain_of_isDigits (h : isDigits cs) : Plain cs :=
  fun c hc => plain_of_isDigit ((isDigits_iff.mp h).2 c hc)

/-- Digits, and perhaps a point and more digits. -/
inductive IsPointed : List Char → Prop where
  | whole {digits : List Char} : isDigits digits → IsPointed digits
  | fraction {whole fraction : List Char} : isDigits whole → (∀ c ∈ fraction, c.isDigit) →
    IsPointed (whole ++ '.' :: fraction)

theorem all_isDigit_zeros (n : Nat) : ∀ c ∈ (Decimal.zeros n).toList, c.isDigit := by
  intro c hc
  rw [Decimal.zeros,String.toList_ofList] at hc
  rw [List.eq_of_mem_replicate hc]
  rfl

theorem isPointed_writePoint {digits : List Char} (h : isDigits digits) (point : Int) :
    IsPointed (Decimal.plain.writePoint digits point).toList := by
  obtain ⟨hne,hd⟩ := isDigits_iff.mp h
  have hzeros := all_isDigit_zeros
  rw [Decimal.Layout.writePoint]
  split
  · have hfraction : ∀ c ∈ (Decimal.zeros (-point).toNat).toList ++ digits, c.isDigit :=
      List.forall_mem_append.mpr ⟨hzeros _,hd⟩
    simpa using IsPointed.fraction (isDigits_toDigits 0) hfraction
  · next hpos =>
    split
    · have hwhole : isDigits (digits ++ (Decimal.zeros (point.toNat-digits.length)).toList) :=
        isDigits_iff.mpr ⟨by simp [hne],List.forall_mem_append.mpr ⟨hd,hzeros _⟩⟩
      simpa [Decimal.plain] using IsPointed.whole hwhole
    · have hwhole : isDigits (digits.take point.toNat) := by
        have htake : point.toNat ≠ 0 := by omega
        exact isDigits_iff.mpr ⟨by simp [hne,htake],fun c hc => hd c (List.mem_of_mem_take hc)⟩
      have hfraction : ∀ c ∈ digits.drop point.toNat, c.isDigit := fun c hc => hd c (List.mem_of_mem_drop hc)
      simpa using IsPointed.fraction hwhole hfraction

theorem IsPointed.mem (h : IsPointed cs) (hc : c ∈ cs) : c.isDigit ∨ c = '.' := by
  cases h with
  | whole hw => exact .inl ((isDigits_iff.mp hw).2 c hc)
  | fraction hw hf =>
    rcases List.mem_append.mp hc with hc | hc
    · exact .inl ((isDigits_iff.mp hw).2 c hc)
    · rcases List.mem_cons.mp hc with rfl | hc
      · exact .inr rfl
      · exact .inl (hf c hc)

theorem IsPointed.plain (h : IsPointed cs) : Plain cs := by
  intro c hc
  rcases h.mem hc with hd | rfl
  · exact plain_of_isDigit hd
  · rfl

theorem IsPointed.isMantissa (h : IsPointed cs) : isMantissa cs := by
  cases h with
  | whole hw =>
    obtain ⟨hne,hd⟩ := isDigits_iff.mp hw
    simp [TextFormat.isMantissa,List.dropWhile_eq_nil_iff.mpr hd,hne]
  | @fraction whole fraction hw hf =>
    obtain ⟨hne,hd⟩ := isDigits_iff.mp hw
    have hpoint : ('.' :: fraction).dropWhile Char.isDigit = '.' :: fraction := rfl
    have hall : fraction.all Char.isDigit := List.all_eq_true.mpr hf
    have hlength : 0 < whole.length := List.length_pos_iff.mpr hne
    simp only [TextFormat.isMantissa,List.dropWhile_append_of_pos hd,hpoint,hall,List.length_append,
      List.length_cons]
    simp
    omega

theorem IsPointed.isDecimal (h : IsPointed cs) : isDecimal cs := by
  have hexponent : ∀ c ∈ cs, (c != 'e' && c != 'E') = true := by
    intro c hc
    rcases h.mem hc with hd | rfl
    · have hne : ∀ d : Char, d.isDigit = false → (c != d) = true := by
        intro d hdigit
        rw [bne_iff_ne]
        rintro rfl
        simp [hd] at hdigit
      rw [hne 'e' rfl,hne 'E' rfl]
      rfl
    · rfl
  rw [TextFormat.isDecimal,List.takeWhile_eq_self_iff.mpr hexponent,List.dropWhile_eq_nil_iff.mpr hexponent,
    h.isMantissa]
  rfl

theorem IsPointed.dropSign_eq (h : IsPointed cs) : dropSign cs = cs := by
  cases cs with
  | nil => rfl
  | cons c cs =>
    rw [dropSign,if_neg]
    intro hsign
    rw [Bool.or_eq_true,beq_iff_eq,beq_iff_eq] at hsign
    rcases h.mem List.mem_cons_self with hd | rfl
    · rcases hsign with rfl | rfl <;> exact absurd hd (by decide)
    · exact absurd hsign (by decide)

theorem IsPointed.isNumber (h : IsPointed cs) : isNumber cs := by
  rw [TextFormat.isNumber,h.dropSign_eq,h.isDecimal,Bool.or_true]

theorem isNumber_sign (negative : Bool) (h : dropSign cs = cs) :
    isNumber ((if negative then "-" else "").toList ++ cs) = isNumber cs := by
  cases negative with
  | false => rfl
  | true =>
    change isNumber ('-' :: cs) = isNumber cs
    simp only [isNumber,h]
    rfl

theorem readInt?_digits (h : isDigits cs) : readInt? cs = some (Nat.ofDigitChars 10 cs 0 : Int) := by
  have hdrop : dropSign cs = cs := (IsPointed.whole h).dropSign_eq
  have hhead : cs.head? ≠ some '-' := fun he =>
    absurd ((isDigits_iff.mp h).2 _ (List.mem_of_head? he)) (by decide)
  rw [readInt?,hdrop,if_pos h]
  exact congrArg some (if_neg hhead)

theorem readInt?_minus (h : isDigits cs) :
    readInt? ('-' :: cs) = some (-(Nat.ofDigitChars 10 cs 0 : Int)) := by
  have hdrop : dropSign ('-' :: cs) = cs := rfl
  rw [readInt?,hdrop,if_pos h]
  rfl

end

theorem plain_sign (negative : Bool) : Plain (if negative then "-" else "").toList := by
  apply plain_of_all
  cases negative <;> decide

/-- A value is printed as one word, and as a number. -/
theorem isNumber_text (x : Float) : isNumber (Decimal.text x).toList ∧ Plain (Decimal.text x).toList := by
  have hsigned : ∀ (negative : Bool) (s : String), isNumber s.toList → dropSign s.toList = s.toList →
      Plain s.toList → isNumber ((if negative then "-" else "") ++ s).toList ∧
        Plain ((if negative then "-" else "") ++ s).toList := by
    intro negative s hs hdrop hplain
    rw [String.toList_append]
    exact ⟨(isNumber_sign negative hdrop).trans hs,(plain_sign negative).append hplain⟩
  rw [Decimal.text,Decimal.Layout.write]
  rcases Decimal.classify x with ⟨negative,kind⟩
  cases kind with
  | nan =>
    have hnan : isNumber "NaN".toList ∧ Plain "NaN".toList := ⟨by decide,plain_of_all (by decide)⟩
    exact hnan
  | infinite => exact hsigned negative "inf" (by decide) (by decide) (plain_of_all (by decide))
  | zero => exact hsigned negative "0" (by decide) (by decide) (plain_of_all (by decide))
  | finite d =>
    have h := isPointed_writePoint (isDigits_toDigits (d.shortest false).coefficient)
      ((Nat.toDigits 10 (d.shortest false).coefficient).length+(d.shortest false).exponent)
    exact hsigned negative _ h.isNumber h.dropSign_eq h.plain

/-- A whole number is printed as digits, after a minus sign if it is negative. -/
theorem toList_toString_int (n : Int) :
    (toString n).toList = (if n < 0 then ['-'] else []) ++ Nat.toDigits 10 n.natAbs := by
  have hdigits : ∀ m : Nat, (toString m).toList = Nat.toDigits 10 m := fun m => by
    rw [Nat.toString_eq_ofList_toDigits,String.toList_ofList]
  cases n with
  | ofNat n =>
    have htext : (toString (Int.ofNat n)).toList = Nat.toDigits 10 n := hdigits n
    have hn : ¬Int.ofNat n < 0 := Int.not_lt.mpr (Int.natCast_nonneg n)
    rw [htext,if_neg hn]
    rfl
  | negSucc n =>
    change ("-" ++ toString (n+1)).toList = _
    rw [String.toList_append,hdigits,if_pos (Int.negSucc_lt_zero n)]
    rfl

/-- A whole number is printed as one word, and read as this number. -/
theorem readInt?_toString (n : Int) : readInt? (toString n).toList = some n ∧ Plain (toString n).toList := by
  rw [toList_toString_int]
  by_cases hn : n < 0
  · rw [if_pos hn,List.singleton_append,readInt?_minus (isDigits_toDigits _),Nat.ofDigitChars_ten_toDigits]
    refine ⟨congrArg some (by omega),fun c hc => ?_⟩
    rcases List.mem_cons.mp hc with rfl | hc
    · rfl
    · exact plain_of_isDigits (isDigits_toDigits _) c hc
  · rw [if_neg hn,List.nil_append,readInt?_digits (isDigits_toDigits _),Nat.ofDigitChars_ten_toDigits]
    exact ⟨congrArg some (by omega),plain_of_isDigits (isDigits_toDigits _)⟩

section
variable {c : Char} {cs rest : List Char} {ls : List (String × String)} {ts : List Token}

theorem tokens_labelText (l : String × String) (h : isLabelName l.1.toList) :
    tokens (.word []) ((labelText l).toList ++ rest) =
      (tokens (.word []) rest).map ([.word l.1.toList,.mark '=',.quoted l.2.toList] ++ ·) := by
  have hname := isName_of_isLabelName h
  have htext : (labelText l).toList ++ rest =
      l.1.toList ++ '=' :: '"' :: (l.2.toList.flatMap escapeValue ++ '"' :: rest) := by
    simp [labelText,escapeWith]
  have hquoted : ∀ cs, tokens (.word []) ('"' :: cs) = tokens (.quoted []) cs := by
    intro cs
    rw [tokens]
    exact Option.map_id'
  rw [htext,tokens_word_mark (plain_of_isName hname) rfl,hquoted,tokens_escaped,
    wordToken_eq (ne_nil_of_isName hname),Option.map_map]
  rfl

theorem readLabels_written (hne : ls ≠ []) (h : ∀ l ∈ ls, isLabelName l.1.toList)
    (hr : tokens (.word []) rest = some ts) :
    ∃ us, tokens (.word []) ((String.intercalate "," (ls.map labelText)).toList ++ '\x7d' :: rest) = some us ∧
      readLabels us = some (ls,ts) := by
  induction ls with
  | nil => exact absurd rfl hne
  | cons l ls ih =>
    have hl := h l List.mem_cons_self
    cases ls with
    | nil =>
      refine ⟨[.word l.1.toList,.mark '=',.quoted l.2.toList,.mark '\x7d'] ++ ts,?_,?_⟩
      · rw [List.map_singleton,String.intercalate_singleton,tokens_labelText l hl,tokens_mark rfl,hr]
        rfl
      · simp [readLabels,hl]
    | cons l' ls =>
      obtain ⟨us,hus,hread⟩ := ih (List.cons_ne_nil _ _) fun m hm => h m (List.mem_cons_of_mem _ hm)
      refine ⟨[.word l.1.toList,.mark '=',.quoted l.2.toList,.mark ','] ++ us,?_,?_⟩
      · have htext : (String.intercalate "," ((l :: l' :: ls).map labelText)).toList ++ '\x7d' :: rest =
            (labelText l).toList ++
              ',' :: ((String.intercalate "," ((l' :: ls).map labelText)).toList ++ '\x7d' :: rest) := by
          simp [String.toList_intercalate]
        rw [htext,tokens_labelText l hl,tokens_mark rfl,hus]
        rfl
      · simp [readLabels,hl,hread]

/-- What follows the labels of a line. -/
def valueChars (l : Line) : List Char :=
  (Decimal.text l.value).toList ++ if l.millis = 0 then [] else ' ' :: (toString l.millis).toList

def valueTokens (l : Line) : List Token :=
  .word (Decimal.text l.value).toList :: if l.millis = 0 then [] else [.word (toString l.millis).toList]

/-- A line without its end. -/
def lineChars (name : String) (l : Line) : List Char :=
  name.toList ++ (labelsText l.labels).toList ++ ' ' :: valueChars l

def readingOf (l : Line) : Reading :=
  ⟨l.labels,Decimal.text l.value,if l.millis = 0 then none else some l.millis⟩

variable {l : Line} {name : String}

theorem toList_lineText (name : String) (l : Line) : (l.text name).toList = lineChars name l ++ ['\n'] := by
  rw [Line.text,lineChars,valueChars]
  split <;> simp

theorem ne_nil_of_isNumber (h : isNumber cs) : cs ≠ [] := by
  rintro rfl
  exact absurd h (by decide)

theorem tokens_valueChars (l : Line) : tokens (.word []) (valueChars l) = some (valueTokens l) := by
  obtain ⟨hnumber,hplain⟩ := isNumber_text l.value
  have hne : (Decimal.text l.value).toList ≠ [] := ne_nil_of_isNumber hnumber
  rw [valueChars,valueTokens]
  split
  · rw [List.append_nil,tokens_word_nil hplain hne]
  · obtain ⟨htime,hword⟩ := readInt?_toString l.millis
    rw [tokens_word_blank hplain hne,tokens_word_nil hword]
    · rfl
    · intro hnil
      rw [hnil] at htime
      simp [readInt?,dropSign,isDigits] at htime

theorem readValue_valueTokens (l : Line) : readValue l.labels (valueTokens l) = some (readingOf l) := by
  have hnumber := (isNumber_text l.value).1
  rw [valueTokens,readingOf]
  split
  · rw [readValue,if_pos hnumber,String.ofList_toList]
  · rw [readValue,if_pos hnumber,(readInt?_toString l.millis).1,String.ofList_toList]
    rfl

/-- A line is read as what it was written from. -/
theorem readLine_lineChars (hn : isName name.toList) (hl : ∀ p ∈ l.labels, isLabelName p.1.toList) :
    readLine (lineChars name l) = some (some (.sample name (readingOf l))) := by
  have hplain := plain_of_isName hn
  have hne := ne_nil_of_isName hn
  have hread := readValue_valueTokens l
  rw [lineChars,List.append_assoc,readLine_word hplain hne]
  by_cases hnil : l.labels = []
  · have hlabels : (labelsText l.labels).toList = [] := by simp [labelsText,hnil]
    rw [hlabels,List.nil_append,tokens_word_blank hplain hne,tokens_valueChars]
    rw [hnil] at hread
    simp only [Option.map_some,Option.bind_some,readSample,hn,if_true,valueTokens,
      String.ofList_toList] at hread ⊢
    rw [hread]
    rfl
  · have hlabels : (labelsText l.labels).toList ++ ' ' :: valueChars l = '\x7b' ::
        ((String.intercalate "," (l.labels.map labelText)).toList ++ '\x7d' :: ' ' :: valueChars l) := by
      simp [labelsText,hnil]
    have hvalue : tokens (.word []) (' ' :: valueChars l) = some (valueTokens l) := by
      rw [tokens_blank,tokens_valueChars]
      rfl
    obtain ⟨us,hus,hback⟩ := readLabels_written hnil hl hvalue
    rw [hlabels,tokens_word_mark hplain rfl,hus,wordToken_eq hne]
    simp only [Option.map_some,Option.bind_some,readSample,hn,if_true,List.singleton_append,hback,hread,
      String.ofList_toList]

end

def helpChars (name help : String) : List Char :=
  ['#',' ','H','E','L','P',' '] ++ name.toList ++ ' ' :: help.toList.flatMap escapeHelp

def typeChars (name : String) (kind : FamilyType) : List Char :=
  ['#',' ','T','Y','P','E',' '] ++ name.toList ++ ' ' :: kind.text.toList

/-- The lines of a family, without their ends. -/
def rows (f : Family) : List (List Char) :=
  (if f.help = "" then [] else [helpChars f.name f.help]) ++
    typeChars f.name f.kind :: f.lines.map (lineChars f.name)

/-- What the lines of a family say. -/
def entries (f : Family) : List Entry :=
  (if f.help = "" then [] else [.help f.name f.help]) ++
    .type f.name f.kind.text :: f.lines.map fun l => .sample f.name (readingOf l)

/-- Names are valid, and nothing stands at the ends of the help that a reader drops. -/
structure Readable (f : Family) : Prop where
  name : isName f.name.toList
  help : trimBlanks f.help.toList = f.help.toList
  labels : ∀ l ∈ f.lines, ∀ p ∈ l.labels, isLabelName p.1.toList

theorem toList_familyText (f : Family) : f.text.toList = (rows f).flatMap (· ++ ['\n']) := by
  have hlines : (f.lines.map (Line.text f.name)).flatMap String.toList =
      (f.lines.map (lineChars f.name)).flatMap (· ++ ['\n']) := by
    simp only [List.flatMap_map,toList_lineText]
  rw [Family.text,rows]
  split
  · simp [typeChars,String.toList_join,hlines]
  · simp [typeChars,helpChars,escapeWith,String.toList_join,hlines]

theorem readLine_helpChars {name help : String} (hn : isName name.toList)
    (hh : trimBlanks help.toList = help.toList) :
    readLine (helpChars name help) = some (some (.help name help)) := by
  have hkeyword := nextWord_blank ['H','E','L','P'] (name.toList ++ ' ' :: help.toList.flatMap escapeHelp)
    (plain_of_all rfl) (by decide)
  have hname := nextWord_blank name.toList (help.toList.flatMap escapeHelp) (plain_of_isName hn)
    (ne_nil_of_isName hn)
  have htext : unescapeHelp false (' ' :: help.toList.flatMap escapeHelp) = some (' ' :: help.toList) := by
    rw [unescapeHelp,if_neg (by decide),unescapeHelp_escaped]
    rfl
  have htrim : trimBlanks (' ' :: help.toList) = help.toList := hh
  have hline : readLine (helpChars name help) = readComment
      (' ' :: (['H','E','L','P'] ++ ' ' :: (name.toList ++ ' ' :: help.toList.flatMap escapeHelp))) := rfl
  rw [hline]
  simp only [readComment,hkeyword,hname,if_true,hn,htext,Option.map_some,htrim,String.ofList_toList]

theorem readLine_typeChars {name : String} (kind : FamilyType) (hn : isName name.toList) :
    readLine (typeChars name kind) = some (some (.type name kind.text)) := by
  have hkeyword := nextWord_blank ['T','Y','P','E'] (name.toList ++ ' ' :: kind.text.toList)
    (plain_of_all rfl) (by decide)
  have hname := nextWord_blank name.toList kind.text.toList (plain_of_isName hn) (ne_nil_of_isName hn)
  have hkind : nextWord (' ' :: kind.text.toList) = (kind.text.toList,[]) ∧ kinds.contains kind.text := by
    cases kind <;> decide
  have hline : readLine (typeChars name kind) =
      readComment (' ' :: (['T','Y','P','E'] ++ ' ' :: (name.toList ++ ' ' :: kind.text.toList))) := rfl
  rw [hline]
  have hother : ['T','Y','P','E'] ≠ ['H','E','L','P'] := by decide
  simp only [readComment,hkeyword,hname,hkind,if_neg hother,if_true,hn,String.ofList_toList,Bool.and_self,
    List.all_nil]

theorem mapM_readLine_rows {f : Family} (h : Readable f) :
    (rows f).mapM readLine = some ((entries f).map some) := by
  have hlines : ∀ ls : List Line, (∀ l ∈ ls, ∀ p ∈ l.labels, isLabelName p.1.toList) →
      (ls.map (lineChars f.name)).mapM readLine =
        some ((ls.map fun l => Entry.sample f.name (readingOf l)).map some) := by
    intro ls hl
    induction ls with
    | nil => rfl
    | cons l ls ih =>
      rw [List.forall_mem_cons] at hl
      simp [readLine_lineChars h.name hl.1,ih hl.2]
  rw [rows,entries]
  split
  · simp [readLine_typeChars f.kind h.name,hlines f.lines h.labels]
  · simp [readLine_helpChars h.name h.help,readLine_typeChars f.kind h.name,hlines f.lines h.labels]

theorem not_newline_mem_labels {ls : List (String × String)} (h : ∀ l ∈ ls, isLabelName l.1.toList) :
    '\n' ∉ (String.intercalate "," (ls.map labelText)).toList := by
  have hlabel : ∀ l : String × String, isLabelName l.1.toList → '\n' ∉ (labelText l).toList := by
    intro l hl
    have hname := (plain_of_isName (isName_of_isLabelName hl)).not_newline_mem
    simp [labelText,escapeWith,hname,not_newline_mem_escapeValue]
  induction ls with
  | nil => simp
  | cons l ls ih =>
    rw [List.forall_mem_cons] at h
    cases ls with
    | nil => simpa using hlabel l h.1
    | cons l' ls =>
      have hrest := ih h.2
      simp only [String.toList_intercalate] at hrest ⊢
      simpa [hlabel l h.1] using hrest

theorem not_newline_mem_lineChars {name : String} {l : Line} (hn : isName name.toList)
    (hl : ∀ p ∈ l.labels, isLabelName p.1.toList) : '\n' ∉ lineChars name l := by
  have hname := (plain_of_isName hn).not_newline_mem
  have hlabels : '\n' ∉ (labelsText l.labels).toList := by
    rw [labelsText]
    split
    · decide
    · simp only [String.toList_append,List.mem_append,not_or]
      exact ⟨⟨by decide,not_newline_mem_labels hl⟩,by decide⟩
  have hvalue := (isNumber_text l.value).2.not_newline_mem
  have htime : '\n' ∉ l.millis.repr.toList := (readInt?_toString l.millis).2.not_newline_mem
  rw [lineChars,valueChars]
  split <;> simp [hname,hlabels,hvalue,htime]

theorem not_newline_mem_rows {f : Family} (h : Readable f) : ∀ row ∈ rows f, '\n' ∉ row := by
  have hname := (plain_of_isName h.name).not_newline_mem
  intro row hrow
  rcases List.mem_append.mp hrow with hrow | hrow
  · split at hrow
    · exact absurd hrow List.not_mem_nil
    · rw [List.mem_singleton.mp hrow]
      simp [helpChars,hname,not_newline_mem_escapeHelp]
  · rcases List.mem_cons.mp hrow with rfl | hrow
    · have hkind : '\n' ∉ f.kind.text.toList := by cases f.kind <;> decide
      simp [typeChars,hname,hkind]
    · obtain ⟨l,hl,rfl⟩ := List.mem_map.mp hrow
      exact not_newline_mem_lineChars h.name (h.labels l hl)

end CloudMetrics.Metrics.TextFormat
