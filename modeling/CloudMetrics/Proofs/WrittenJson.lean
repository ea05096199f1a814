import CloudMetrics.Json.Printer
import CloudMetrics.Json.Reader
import CloudMetrics.Proofs.FormTexts
import CloudMetrics.Proofs.PrintedValues

/-!
# Written JSON

A value without doubles is read again from its compact text, whatever its strings are, if its integers are
in the range of integers, no object has two members of one name, and not too many lists and objects stand
inside each other. The reader is led by the next character: a text that begins as some value begins is this
value's text, and what follows it is left over.
-/
namespace CloudMetrics.Json

open Text Utf8

/-- A text as pieces. -/
def scalars (cs : List Char) : List Piece := cs.map .scalar

@[simp] theorem scalars_nil : scalars [] = [] := rfl

@[simp] theorem scalars_cons (c : Char) (cs : List Char) : scalars (c :: cs) = .scalar c :: scalars cs := rfl

@[simp] theorem scalars_append (cs ds : List Char) : scalars (cs ++ ds) = scalars cs ++ scalars ds :=
  List.map_append

variable {m : Manner} {fuel : Nat} {rest : List Piece} {c : Char} {cs : List Char}

/-- Text is left to be read while there is fuel. -/
theorem exists_succ (hne : cs ≠ []) (h : cs.length ≤ fuel) : ∃ k, fuel = k+1 := by
  have hpos := List.length_pos_of_ne_nil hne
  exact Nat.exists_eq_succ_of_ne_zero (by omega)

theorem readHex_control {n : Nat} (h : n < 0x20) (rest : List Piece) :
    readHex (scalars ['0','0',lowerHex (n/16),lowerHex (n%16)] ++ rest) = .ok (n,rest) := by
  have hall : ∀ k : Fin 0x20, size (scalars ['0','0',lowerHex (k.val/16),lowerHex (k.val%16)]) = 4 ∧
      (scalars ['0','0',lowerHex (k.val/16),lowerHex (k.val%16)]).mapM (fun p => p.char?.bind hexValue?) =
        some [0,0,k.val/16,k.val%16] := by decide +kernel
  obtain ⟨hsize,hdigits⟩ := hall ⟨n,h⟩
  have htake : (scalars ['0','0',lowerHex (n/16),lowerHex (n%16)] ++ rest).take 4 =
      scalars ['0','0',lowerHex (n/16),lowerHex (n%16)] := rfl
  have hdrop : (scalars ['0','0',lowerHex (n/16),lowerHex (n%16)] ++ rest).drop 4 = rest := rfl
  have hn : 0*4096+0*256+n/16*16+n%16 = n := by omega
  rw [readHex,htake,hsize,if_neg (by decide),hdigits,hdrop]
  simp only [hn]

theorem readEscape_control (h : c.toNat < 0x20) (rest : List Piece) :
    readEscape .whole (.scalar 'u' :: (scalars ['0','0',lowerHex (c.toNat/16),lowerHex (c.toNat%16)] ++ rest)) =
      .ok (some c,rest) := by
  have htrailing : ¬isTrailing c.toNat := by
    simp only [isTrailing,Bool.and_eq_true,decide_eq_true_eq]
    omega
  have hleading : ¬isLeading c.toNat := by
    simp only [isLeading,Bool.and_eq_true,decide_eq_true_eq]
    omega
  rw [readEscape,readUnit,readHex_control h]
  change (if isTrailing c.toNat then _ else if isLeading c.toNat then _ else _) = _
  rw [if_neg htrailing,if_neg hleading,Char.ofNat_toNat]

/-- One character of a string is read from its escape. -/
theorem readChars_escapeChar {as : List (Option Char)} {left : List Piece} (c : Char)
    (h : readChars .whole fuel rest = .ok (as,left)) :
    readChars .whole (fuel+1) (scalars (escapeChar c) ++ rest) = .ok (some c :: as,left) := by
  have hescape {ds : List Char} (hd : readEscape .whole (scalars ds ++ rest) = .ok (some c,rest)) :
      readChars .whole (fuel+1) (scalars ('\\' :: ds) ++ rest) = .ok (some c :: as,left) := by
    rw [scalars_cons,List.cons_append,readChars,if_neg (by decide),if_pos rfl,hd]
    change (readChars .whole fuel rest >>= _) = _
    rw [h]
    rfl
  unfold escapeChar
  split_ifs with hquote hbackslash hback hfeed hline hreturn htab hcontrol
  · subst hquote
    exact hescape rfl
  · subst hbackslash
    exact hescape rfl
  · subst hback
    exact hescape rfl
  · subst hfeed
    exact hescape rfl
  · subst hline
    exact hescape rfl
  · subst hreturn
    exact hescape rfl
  · subst htab
    exact hescape rfl
  · exact hescape (readEscape_control hcontrol rest)
  · rw [scalars_cons,scalars_nil,List.singleton_append,readChars,if_neg hquote,if_neg hbackslash,if_neg hcontrol,h]
    rfl

theorem readChars_written (cs : List Char) (rest : List Piece) {fuel : Nat} (h : cs.length < fuel) :
    readChars .whole fuel (scalars (cs.flatMap escapeChar ++ ['"']) ++ rest) = .ok (cs.map some,rest) := by
  induction cs generalizing fuel with
  | nil =>
    obtain ⟨fuel,rfl⟩ := Nat.exists_eq_succ_of_ne_zero (Nat.ne_of_gt h)
    rfl
  | cons c cs ih =>
    obtain ⟨fuel,rfl⟩ := Nat.exists_eq_succ_of_ne_zero (Nat.ne_of_gt (Nat.lt_of_le_of_lt (Nat.zero_le _) h))
    rw [List.flatMap_cons,List.append_assoc,scalars_append,List.append_assoc]
    exact readChars_escapeChar c (ih (Nat.lt_of_succ_lt_succ h))

theorem escapeChar_ne_nil (c : Char) : escapeChar c ≠ [] := by
  unfold escapeChar
  split_ifs <;> exact List.cons_ne_nil _ _

theorem length_le_escaped (cs : List Char) : cs.length ≤ (cs.flatMap escapeChar).length := by
  induction cs with
  | nil => exact Nat.le_refl _
  | cons c cs ih =>
    have hc := List.length_pos_of_ne_nil (escapeChar_ne_nil c)
    rw [List.flatMap_cons,List.length_append,List.length_cons]
    omega

/-- A string is read after its opening quote. -/
theorem readString_written (s : String) (rest : List Piece) :
    readString .whole (scalars (s.toList.flatMap escapeChar ++ ['"']) ++ rest) = .ok (some s,rest) := by
  have hlength := length_le_escaped s.toList
  have hfuel : s.toList.length < (scalars (s.toList.flatMap escapeChar ++ ['"']) ++ rest).length+1 := by
    simp only [scalars,List.length_append,List.length_map]
    omega
  have hchars : (s.toList.map some).mapM id = some s.toList := by
    induction s.toList with
    | nil => rfl
    | cons c cs ih =>
      rw [List.map_cons,List.mapM_cons,ih]
      rfl
  rw [readString,readChars_written s.toList rest hfuel]
  simp only [bind,Except.bind,hchars,String.ofList_toList]

/-- Where a number ends: nothing follows, or no character that could belong to it. -/
def EndsNumber (ps : List Piece) : Prop :=
  ∀ p ∈ ps.head?, isDigitPiece p = false ∧ p ≠ .scalar '.' ∧ p ≠ .scalar 'e' ∧ p ≠ .scalar 'E'

theorem endsNumber_nil : EndsNumber [] := fun _ h => nomatch h

theorem endsNumber_cons (hdigit : c.isDigit = false) (hmark : c ≠ '.' ∧ c ≠ 'e' ∧ c ≠ 'E') (rest : List Piece) :
    EndsNumber (.scalar c :: rest) := by
  intro p hp
  cases hp
  simpa [isDigitPiece,hdigit] using hmark

/-- The digits of a text, and what follows them. -/
theorem spanDigits_scalars (hcs : ∀ c ∈ cs, c.isDigit) (h : EndsNumber rest) :
    spanDigits (scalars cs ++ rest) = (cs.map fun c => c.toNat-48,rest) := by
  have hall : ∀ p ∈ scalars cs, isDigitPiece p := by
    intro p hp
    obtain ⟨c,hc,rfl⟩ := List.mem_map.mp hp
    exact hcs c hc
  obtain ⟨hdigits,hrest⟩ := takeWhile_dropWhile_append hall fun p hp => (h p hp).1
  rw [spanDigits,hdigits,hrest,scalars,List.filterMap_map]
  simp [Function.comp_def,Piece.char?]

theorem absorb_eq (s : ℕ) (ds : List ℕ) (h : ds.foldl (fun s d => 10*s+d) s < Nat.pow 2 64) :
    absorb s ds = (ds.foldl (fun s d => 10*s+d) s,0) := by
  have hgrows (ds : List ℕ) : ∀ s, s ≤ ds.foldl (fun s d => 10*s+d) s := by
    induction ds with
    | nil => exact fun s => Nat.le_refl s
    | cons d ds ih =>
      intro s
      have hs := ih (10*s+d)
      rw [List.foldl_cons]
      omega
  induction ds generalizing s with
  | nil => rfl
  | cons d ds ih =>
    have hs : 10*s+d < Nat.pow 2 64 := Nat.lt_of_le_of_lt (hgrows ds (10*s+d)) h
    rw [absorb,if_pos hs,ih _ h,List.foldl_cons]

theorem absorb_toDigits {k : ℕ} (h : k < Nat.pow 2 64) :
    absorb 0 ((Nat.toDigits 10 k).map fun c => c.toNat-48) = (k,0) := by
  have hfold : ((Nat.toDigits 10 k).map fun c => c.toNat-48).foldl (fun s d => 10*s+d) 0 = k := by
    rw [List.foldl_map]
    exact Nat.ofDigitChars_ten_toDigits
  rw [absorb_eq 0 _ (by rwa [hfold]),hfold]

/-- A number of digits alone is an integer. -/
theorem readTail_end {negative : Bool} {k : ℕ} (h : EndsNumber rest)
    (hk : negative = true → 0 < k ∧ k ≤ Nat.pow 2 63) :
    readTail m negative k 0 rest = .ok (int (if negative then -k else k),rest) := by
  have hexponent : startsExponent rest = false := by
    cases hr : rest.head? with
    | none => simp [startsExponent,hr]
    | some p =>
      obtain ⟨-,-,he,hE⟩ := h p hr
      simp [startsExponent,hr,he,hE]
  have hpoint : ∀ r, rest ≠ .scalar '.' :: r := by
    rintro r rfl
    exact (h _ rfl).2.1 rfl
  rw [readTail]
  · rw [if_neg (by simp [hexponent]),if_neg (Nat.lt_irrefl 0)]
    cases negative with
    | false => rfl
    | true => rw [if_pos rfl,if_pos (hk rfl),if_pos rfl]
  · exact hpoint

theorem readNumber_toDigits {negative : Bool} {k : ℕ} (h : EndsNumber rest) (hk : k < Nat.pow 2 64)
    (hnegative : negative = true → 0 < k ∧ k ≤ Nat.pow 2 63) :
    readNumber m negative (scalars (Nat.toDigits 10 k) ++ rest) = .ok (int (if negative then -k else k),rest) := by
  have hdigits : ∀ c ∈ Nat.toDigits 10 k, c.isDigit := fun c hc => isDigit_of_mem_toDigits hc
  by_cases hzero : k = 0
  · subst hzero
    have hnone : (rest.head?.map isDigitPiece).getD false = false := by
      cases hr : rest.head? with
      | none => rfl
      | some p => exact (h p hr).1
    rw [Nat.toDigits_zero,scalars_cons,scalars_nil,List.singleton_append,readNumber,if_pos rfl,
      if_neg (by simp [hnone]),readTail_end h hnegative]
  · have hspan := spanDigits_scalars hdigits h
    have habsorb := absorb_toDigits hk
    have hhead := Config.head?_toDigits (Nat.pos_of_ne_zero hzero)
    cases hds : Nat.toDigits 10 k with
    | nil => exact absurd hds Nat.toDigits_ne_nil
    | cons d ds =>
      rw [hds] at hspan habsorb hhead hdigits
      have hd : isDigitPiece (.scalar d) := hdigits d List.mem_cons_self
      have hne : Piece.scalar d ≠ .scalar '0' := fun he => hhead (congrArg some (Piece.scalar.inj he))
      rw [scalars_cons,List.cons_append] at hspan ⊢
      rw [readNumber,if_neg hne,if_pos hd,hspan]
      simp only [habsorb]
      exact readTail_end h hnegative

/-- Values that are read again when at most `depth` lists and objects may stand inside each other. -/
inductive Writable : ℕ → Json → Prop where
  | null {depth : ℕ} : Writable depth null
  | bool {depth : ℕ} (b : Bool) : Writable depth (bool b)
  | int {depth : ℕ} (n : ℤ) : -9223372036854775808 ≤ n → n ≤ 18446744073709551615 → Writable depth (int n)
  | string {depth : ℕ} (s : String) : Writable depth (string s)
  | array {depth : ℕ} {items : List Json} : (∀ v ∈ items, Writable depth v) → Writable (depth+1) (array items)
  | object {depth : ℕ} {members : List (String × Json)} : (∀ e ∈ members, Writable depth e.2) →
      (members.map Prod.fst).Nodup → Writable (depth+1) (object members)

/-- The text of a value is read as the value, up to where it ends. -/
def IsRead (depth : ℕ) (v : Json) : Prop :=
  ∀ fuel rest, v.writeList.length ≤ fuel → EndsNumber rest →
    readValue .whole fuel (some depth) (scalars v.writeList ++ rest) = .ok (v,rest)

/-- The items behind an item and the end of the list. -/
def itemsBehind : List Json → List Char
  | [] => [']']
  | v :: items => ',' :: (v.writeList ++ itemsBehind items)

def membersBehind : List (String × Json) → List Char
  | [] => ['\x7d']
  | (k,v) :: members => ',' :: (writeString k.toList ++ ':' :: (v.writeList ++ membersBehind members))

variable {v : Json} {k : String} {items : List Json} {members : List (String × Json)} {depth : ℕ}

theorem writeItems_cons (v : Json) (items : List Json) :
    writeItems (v :: items) = v.writeList ++ itemsBehind items := by
  induction items generalizing v with
  | nil => rfl
  | cons w items ih => rw [writeItems,ih,itemsBehind]

theorem writeMembers_cons (k : String) (v : Json) (members : List (String × Json)) :
    writeMembers ((k,v) :: members) = writeString k.toList ++ ':' :: (v.writeList ++ membersBehind members) := by
  induction members generalizing k v with
  | nil => simp [writeMembers,membersBehind]
  | cons e members ih =>
    obtain ⟨k',v'⟩ := e
    rw [writeMembers,ih,membersBehind]
    simp

theorem endsNumber_itemsBehind (items : List Json) (rest : List Piece) :
    EndsNumber (scalars (itemsBehind items) ++ rest) := by
  cases items <;> exact endsNumber_cons (by decide) (by decide) _

theorem endsNumber_membersBehind (members : List (String × Json)) (rest : List Piece) :
    EndsNumber (scalars (membersBehind members) ++ rest) := by
  rcases members with _ | ⟨e,members⟩ <;> exact endsNumber_cons (by decide) (by decide) _

theorem ne_of_isDigit {d : Char} (hd : d.isDigit) (hc : c.isDigit = false) : d ≠ c := by
  rintro rfl
  exact absurd (hd.symm.trans hc) (by decide)

theorem isGap_of_isDigit {d : Char} (hd : d.isDigit) : isGap (.scalar d) = false := by
  have hne (c : Char) (hc : c.isDigit = false) : d ≠ c := ne_of_isDigit hd hc
  simp [isGap,hne ' ' (by decide),hne '\n' (by decide),hne '\t' (by decide),hne '\r' (by decide)]

theorem exists_toDigits (k : ℕ) : ∃ d ds, Nat.toDigits 10 k = d :: ds ∧ d.isDigit := by
  obtain ⟨d,ds,hds⟩ := List.exists_cons_of_ne_nil (Nat.toDigits_ne_nil (b := 10) (n := k))
  have hmem : d ∈ Nat.toDigits 10 k := hds ▸ List.mem_cons_self
  exact ⟨d,ds,hds,isDigit_of_mem_toDigits hmem⟩

theorem writeList_int (n : ℤ) :
    (int n).writeList = (if n < 0 then ['-'] else []) ++ Nat.toDigits 10 n.natAbs := by
  rw [writeList]
  exact Metrics.TextFormat.toList_toString_int n

/-- A value begins with a character of its own. -/
theorem Writable.exists_cons (h : Writable depth v) :
    ∃ c cs, v.writeList = c :: cs ∧ isGap (.scalar c) = false ∧ c ≠ ']' := by
  cases h with
  | null => exact ⟨_,_,rfl,by decide,by decide⟩
  | bool b => cases b <;> exact ⟨_,_,rfl,by decide,by decide⟩
  | int n =>
    rw [writeList_int]
    split
    · exact ⟨_,_,rfl,by decide,by decide⟩
    · obtain ⟨d,ds,hds,hd⟩ := exists_toDigits n.natAbs
      exact ⟨d,ds,hds,isGap_of_isDigit hd,ne_of_isDigit hd (by decide)⟩
  | string s => exact ⟨_,_,rfl,by decide,by decide⟩
  | array h => exact ⟨_,_,rfl,by decide,by decide⟩
  | object h hnodup => exact ⟨_,_,rfl,by decide,by decide⟩

theorem skipGaps_cons (h : isGap (.scalar c) = false) (rest : List Piece) :
    skipGaps (.scalar c :: rest) = .scalar c :: rest :=
  List.dropWhile_cons_of_neg (by simp [h])

theorem readValue_digit {depth : Depth} {d : Char} (hd : d.isDigit) (rest : List Piece) :
    readValue m (fuel+1) depth (.scalar d :: rest) = readNumber m false (.scalar d :: rest) := by
  have hne (c : Char) (hc : c.isDigit = false) : d ≠ c := ne_of_isDigit hd hc
  have hpiece : isDigitPiece (.scalar d) := hd
  rw [readValue,skipGaps_cons (isGap_of_isDigit hd)]
  simp [hpiece,hne '"' (by decide),hne '[' (by decide),hne '\x7b' (by decide),hne 'n' (by decide),
    hne 't' (by decide),hne 'f' (by decide),hne '-' (by decide)]

theorem isRead_int {n : ℤ} (hlo : -9223372036854775808 ≤ n) (hhi : n ≤ 18446744073709551615) :
    IsRead depth (int n) := by
  intro fuel rest hfuel hrest
  obtain ⟨d,ds,hds,hd⟩ := exists_toDigits n.natAbs
  have hk : n.natAbs < Nat.pow 2 64 := by
    simp only [Nat.pow_eq]
    omega
  rw [writeList_int] at hfuel ⊢
  obtain ⟨fuel,rfl⟩ := exists_succ (by simp [hds]) hfuel
  split
  · next hn =>
    have hbounds : true = true → 0 < n.natAbs ∧ n.natAbs ≤ Nat.pow 2 63 := by
      simp only [Nat.pow_eq]
      omega
    have hread := readNumber_toDigits (m := .whole) hrest hk hbounds
    rw [if_pos rfl,← Int.eq_neg_natAbs_of_nonpos (by omega)] at hread
    rw [List.singleton_append,scalars_cons,List.cons_append,readValue,skipGaps_cons (by decide)]
    exact hread
  · next hn =>
    have hbounds : false = true → 0 < n.natAbs ∧ n.natAbs ≤ Nat.pow 2 63 := fun h => absurd h (by decide)
    have hread := readNumber_toDigits (m := .whole) hrest hk hbounds
    rw [if_neg (by decide),Int.natAbs_of_nonneg (by omega)] at hread
    rw [List.nil_append,hds,scalars_cons,List.cons_append,readValue_digit hd]
    rwa [hds] at hread

theorem isRead_string (s : String) : IsRead depth (string s) := by
  intro fuel rest hfuel hrest
  have hwrite : (string s).writeList = '"' :: (s.toList.flatMap escapeChar ++ ['"']) := rfl
  rw [hwrite] at hfuel ⊢
  obtain ⟨fuel,rfl⟩ := exists_succ (List.cons_ne_nil _ _) hfuel
  rw [scalars_cons,List.cons_append,readValue,skipGaps_cons (by decide)]
  change (readString .whole _ >>= _) = _
  rw [readString_written]
  rfl

section

variable {text left : List Piece}

/-- An item behind the opening bracket, and the items behind it. -/
theorem readItems_first (h : Writable depth v)
    (hv : readValue .whole fuel (some depth) (scalars v.writeList ++ text) = .ok (v,text))
    (hitems : readItems .whole fuel (some depth) false text = .ok (items,left)) :
    readItems .whole (fuel+1) (some depth) true (scalars v.writeList ++ text) = .ok (v :: items,left) := by
  obtain ⟨c,cs,hcs,hgap,hend⟩ := h.exists_cons
  rw [hcs,scalars_cons,List.cons_append] at hv ⊢
  rw [readItems,skipGaps_cons hgap]
  simp [hend,hv,hitems,bind,Except.bind]

theorem readItems_comma (h : Writable depth v)
    (hv : readValue .whole fuel (some depth) (scalars v.writeList ++ text) = .ok (v,text))
    (hitems : readItems .whole fuel (some depth) false text = .ok (items,left)) :
    readItems .whole (fuel+1) (some depth) false (.scalar ',' :: (scalars v.writeList ++ text)) =
      .ok (v :: items,left) := by
  obtain ⟨c,cs,hcs,hgap,hend⟩ := h.exists_cons
  rw [hcs,scalars_cons,List.cons_append] at hv ⊢
  rw [readItems,skipGaps_cons (by decide)]
  simp [skipGaps_cons hgap,hend,hv,hitems,bind,Except.bind]

theorem readMember_written
    (hv : readValue .whole fuel (some depth) (scalars v.writeList ++ text) = .ok (v,text)) :
    readMember .whole (fuel+1) (some depth)
      (scalars (k.toList.flatMap escapeChar ++ ['"']) ++ .scalar ':' :: (scalars v.writeList ++ text)) =
      .ok ((some k,v),text) := by
  have hcolon := skipGaps_cons (c := ':') (by decide) (scalars v.writeList ++ text)
  rw [readMember,readString_written]
  simp [hcolon,hv,bind,Except.bind]

theorem readMembers_first {e : Option String × Json} {es : List (Option String × Json)}
    (he : readMember .whole fuel (some depth) rest = .ok (e,text))
    (hmembers : readMembers .whole fuel (some depth) false text = .ok (es,left)) :
    readMembers .whole (fuel+1) (some depth) true (.scalar '"' :: rest) = .ok (e :: es,left) := by
  rw [readMembers,skipGaps_cons (by decide)]
  simp [he,hmembers,bind,Except.bind]

theorem readMembers_comma {e : Option String × Json} {es : List (Option String × Json)}
    (he : readMember .whole fuel (some depth) rest = .ok (e,text))
    (hmembers : readMembers .whole fuel (some depth) false text = .ok (es,left)) :
    readMembers .whole (fuel+1) (some depth) false (.scalar ',' :: .scalar '"' :: rest) = .ok (e :: es,left) := by
  rw [readMembers,skipGaps_cons (by decide)]
  simp [skipGaps_cons (c := '"') (by decide),he,hmembers,bind,Except.bind]

end

theorem readItems_behind (items : List Json) (hw : ∀ v ∈ items, Writable depth v) (h : ∀ v ∈ items, IsRead depth v)
    {fuel : ℕ} (hfuel : (itemsBehind items).length ≤ fuel) (rest : List Piece) :
    readItems .whole fuel (some depth) false (scalars (itemsBehind items) ++ rest) = .ok (items,rest) := by
  induction items generalizing fuel with
  | nil =>
    obtain ⟨fuel,rfl⟩ := exists_succ (by simp [itemsBehind]) hfuel
    rfl
  | cons v items ih =>
    obtain ⟨fuel,rfl⟩ := exists_succ (by simp [itemsBehind]) hfuel
    obtain ⟨hv,hitems⟩ := List.forall_mem_cons.mp h
    obtain ⟨hwv,hwitems⟩ := List.forall_mem_cons.mp hw
    simp only [itemsBehind,List.length_cons,List.length_append] at hfuel
    have hend := endsNumber_itemsBehind items rest
    rw [itemsBehind,scalars_cons,scalars_append,List.cons_append,List.append_assoc]
    exact readItems_comma hwv (hv fuel _ (by omega) hend) (ih hwitems hitems (by omega))

theorem isRead_array (hw : ∀ v ∈ items, Writable depth v) (h : ∀ v ∈ items, IsRead depth v) :
    IsRead (depth+1) (array items) := by
  intro fuel rest hfuel hrest
  have hwrite : (array items).writeList = '[' :: writeItems items := rfl
  rw [hwrite] at hfuel ⊢
  obtain ⟨fuel,rfl⟩ := exists_succ (List.cons_ne_nil _ _) hfuel
  have hitems : readItems .whole fuel (some depth) true (scalars (writeItems items) ++ rest) = .ok (items,rest) := by
    cases items with
    | nil =>
      obtain ⟨fuel,rfl⟩ := exists_succ (List.cons_ne_nil ']' []) (Nat.le_of_succ_le_succ hfuel)
      rfl
    | cons v items =>
      obtain ⟨hv,hitems⟩ := List.forall_mem_cons.mp h
      obtain ⟨hwv,hwitems⟩ := List.forall_mem_cons.mp hw
      obtain ⟨c,cs,hcs,-,-⟩ := hwv.exists_cons
      have hlength : 0 < v.writeList.length := by simp [hcs]
      simp only [writeItems_cons,List.length_cons,List.length_append] at hfuel
      obtain ⟨fuel,rfl⟩ : ∃ k, fuel = k+1 := Nat.exists_eq_succ_of_ne_zero (by omega)
      have hend := endsNumber_itemsBehind items rest
      have hbehind : (itemsBehind items).length ≤ fuel := by omega
      have hvalue : v.writeList.length ≤ fuel := by
        have hpos : 0 < (itemsBehind items).length := by cases items <;> simp [itemsBehind]
        omega
      rw [writeItems_cons,scalars_append,List.append_assoc]
      exact readItems_first hwv (hv fuel _ hvalue hend) (readItems_behind items hwitems hitems hbehind rest)
  rw [scalars_cons,List.cons_append,readValue,skipGaps_cons (by decide)]
  simp [Depth.enter,hitems,bind,Except.bind]

theorem put_of_not_mem {α : Type} {key : String} (value : α) {members : List (String × α)}
    (h : key ∉ members.map Prod.fst) : put key value members = members ++ [(key,value)] := by
  induction members with
  | nil => rfl
  | cons e members ih =>
    rw [List.map_cons,List.mem_cons,not_or] at h
    rw [put,if_neg (Ne.symm h.1),ih h.2,List.cons_append]

/-- Nothing is lost of members with different names. -/
theorem lastOfEach_of_nodup {α : Type} {members : List (String × α)} (h : (members.map Prod.fst).Nodup) :
    lastOfEach members = members := by
  induction members using List.reverseRecOn with
  | nil => rfl
  | append_singleton members e ih =>
    rw [List.map_append,List.nodup_append] at h
    obtain ⟨hmembers,-,hdisjoint⟩ := h
    have he : e.1 ∉ members.map Prod.fst := fun hmem => hdisjoint _ hmem _ (by simp) rfl
    have hfold := ih hmembers
    rw [lastOfEach] at hfold ⊢
    rw [List.foldl_append,hfold]
    exact put_of_not_mem e.2 he

/-- Members as they are read, before those of one name are put together. -/
def readAs (members : List (String × Json)) : List (Option String × Json) := members.map fun e => (some e.1,e.2)

theorem ofMembers_readAs (h : (members.map Prod.fst).Nodup) :
    ofMembers .whole (readAs members) = object members := by
  have hkeys : (readAs members).mapM (fun e => e.1.map fun k => (k,e.2)) = some members := by
    rw [readAs]
    clear h
    induction members with
    | nil => rfl
    | cons e members ih =>
      rw [List.map_cons,List.mapM_cons,ih]
      rfl
  rw [ofMembers,hkeys]
  change object (lastOfEach members) = _
  rw [lastOfEach_of_nodup h]

theorem readMembers_behind (members : List (String × Json)) (h : ∀ e ∈ members, IsRead depth e.2)
    {fuel : ℕ} (hfuel : (membersBehind members).length ≤ fuel) (rest : List Piece) :
    readMembers .whole fuel (some depth) false (scalars (membersBehind members) ++ rest) =
      .ok (readAs members,rest) := by
  induction members generalizing fuel with
  | nil =>
    obtain ⟨fuel,rfl⟩ := exists_succ (by simp [membersBehind]) hfuel
    rfl
  | cons e members ih =>
    obtain ⟨k,v⟩ := e
    obtain ⟨hv,hmembers⟩ := List.forall_mem_cons.mp h
    change IsRead depth v at hv
    simp only [membersBehind,writeString,List.cons_append,List.length_cons,List.length_append] at hfuel
    obtain ⟨fuel,rfl⟩ : ∃ n, fuel = n+2 := ⟨fuel-2,by omega⟩
    have hend := endsNumber_membersBehind members rest
    have hmember := readMember_written (k := k) (hv fuel _ (by omega) hend)
    have hbehind : (membersBehind members).length ≤ fuel+1 := by omega
    have hothers := ih hmembers hbehind
    have htext : scalars (membersBehind ((k,v) :: members)) ++ rest =
        .scalar ',' :: .scalar '"' :: (scalars (k.toList.flatMap escapeChar ++ ['"']) ++
          .scalar ':' :: (scalars v.writeList ++ (scalars (membersBehind members) ++ rest))) := by
      simp [membersBehind,writeString]
    rw [htext]
    exact readMembers_comma hmember hothers

theorem isRead_object (h : ∀ e ∈ members, IsRead depth e.2) (hnodup : (members.map Prod.fst).Nodup) :
    IsRead (depth+1) (object members) := by
  intro fuel rest hfuel hrest
  have hwrite : (object members).writeList = '\x7b' :: writeMembers members := rfl
  rw [hwrite] at hfuel ⊢
  obtain ⟨fuel,rfl⟩ := exists_succ (List.cons_ne_nil _ _) hfuel
  have hmembers : readMembers .whole fuel (some depth) true (scalars (writeMembers members) ++ rest) =
      .ok (readAs members,rest) := by
    cases members with
    | nil =>
      obtain ⟨fuel,rfl⟩ := exists_succ (List.cons_ne_nil '\x7d' []) (Nat.le_of_succ_le_succ hfuel)
      rfl
    | cons e members =>
      obtain ⟨k,v⟩ := e
      obtain ⟨hv,hmembers⟩ := List.forall_mem_cons.mp h
      change IsRead depth v at hv
      have hpos : 0 < (membersBehind members).length := by
        rcases members with _ | ⟨e,members⟩ <;> simp [membersBehind]
      simp only [writeMembers_cons,writeString,List.cons_append,List.length_cons,List.length_append] at hfuel
      obtain ⟨fuel,rfl⟩ : ∃ n, fuel = n+2 := ⟨fuel-2,by omega⟩
      have hend := endsNumber_membersBehind members rest
      have hmember := readMember_written (k := k) (hv fuel _ (by omega) hend)
      have hbehind : (membersBehind members).length ≤ fuel+1 := by omega
      have hothers := readMembers_behind members hmembers hbehind rest
      have htext : scalars (writeMembers ((k,v) :: members)) ++ rest =
          .scalar '"' :: (scalars (k.toList.flatMap escapeChar ++ ['"']) ++
            .scalar ':' :: (scalars v.writeList ++ (scalars (membersBehind members) ++ rest))) := by
        simp [writeMembers_cons,writeString]
      rw [htext]
      exact readMembers_first hmember hothers
  rw [scalars_cons,List.cons_append,readValue,skipGaps_cons (by decide)]
  simp [Depth.enter,hmembers,bind,Except.bind,ofMembers_readAs hnodup]

theorem Writable.isRead (h : Writable depth v) : IsRead depth v := by
  induction h with
  | null =>
    intro fuel rest hfuel hrest
    obtain ⟨fuel,rfl⟩ := exists_succ (by simp [writeList]) hfuel
    rfl
  | bool b =>
    intro fuel rest hfuel hrest
    obtain ⟨fuel,rfl⟩ := exists_succ (by cases b <;> simp [writeList]) hfuel
    cases b <;> rfl
  | int n hlo hhi => exact isRead_int hlo hhi
  | string s => exact isRead_string s
  | array hitems ih => exact isRead_array hitems ih
  | object hmembers hnodup ih => exact isRead_object ih hnodup

/-- A value is read from its compact text. -/
theorem read_writeList (h : Writable 127 v) : read .whole (encodeList v.writeList) = .ok v := by
  have hfuel : v.writeList.length ≤ 3*(scalars v.writeList).length+3 := by
    rw [scalars,List.length_map]
    omega
  have hread := h.isRead _ [] hfuel endsNumber_nil
  rw [List.append_nil] at hread
  have hpieces : pieces (encodeList v.writeList) = scalars v.writeList := pieces_encodeList _
  rw [read,hpieces,readPieces]
  change (readValue .whole _ (some 127) _ >>= _) = _
  rw [hread]
  rfl

end CloudMetrics.Json
