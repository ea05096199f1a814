import CloudMetrics.Url.Host
import Mathlib.Data.List.Basic

/-!
# Blanks in hosts

A text with a blank at its end is no host, in whatever spelling the rest of it comes. On its way to the
labels of a domain a blank passes the percent decoding, the reading of bytes as characters, the respelling
and the composition, and each of them lets it through: it is no hexadecimal digit, a byte of its own, in
no table of other spellings, and joined to nothing. So it stands in some label, and no label may have it.

Blanks are the characters up to the space, as at the ends of a URL.
-/
namespace CloudMetrics

namespace Text

variable {c : Char}

/-- What is checked for each number up to that of the space holds of all blanks. -/
theorem blank_of_forall {P : Char → Prop} (h : ∀ n ≤ 0x20, P (Char.ofNat n)) (hc : c.toNat ≤ 0x20) : P c := by
  have hp := h c.toNat hc
  rwa [Char.ofNat_toNat] at hp

theorem takeApart_of_le (hc : c.toNat ≤ 0x20) (fuel : Nat) : takeApart fuel c = [c] := by
  cases fuel with
  | zero => rfl
  | succ fuel =>
    have h : c.toNat < 0x80 := by omega
    simp [takeApart,h]

theorem mem_insertMark {m n : Nat × Char} {ms : List (Nat × Char)} :
    n ∈ insertMark m ms ↔ n = m ∨ n ∈ ms := by
  induction ms with
  | nil => simp [insertMark]
  | cons k ms ih =>
    simp only [insertMark]
    split
    · simp
    · simp only [List.mem_cons,ih]
      exact or_left_comm

theorem mem_orderMarks_of_mem {m : Nat × Char} {seen : List (Nat × Char)} {cs : List Char} (h : m ∈ seen) :
    m ∈ orderMarks seen cs := by
  induction cs generalizing seen with
  | nil => exact h
  | cons d cs ih =>
    simp only [orderMarks]
    split
    · exact List.mem_append_left _ h
    · exact ih (mem_insertMark.mpr (Or.inr h))

/-- Ordering loses no character. -/
theorem mem_orderMarks {seen : List (Nat × Char)} {cs : List Char} (h : c ∈ cs) :
    (combiningClass c,c) ∈ orderMarks seen cs := by
  induction cs generalizing seen with
  | nil => cases h
  | cons d cs ih =>
    simp only [orderMarks]
    rcases List.mem_cons.mp h with rfl | h
    · split
      · next hk => simp [hk]
      · exact mem_orderMarks_of_mem (mem_insertMark.mpr (Or.inl rfl))
    · split
      · exact List.mem_append_right _ (List.mem_cons_of_mem _ (ih h))
      · exact ih h

/-- A blank is joined to nothing. -/
theorem join?_of_le {a b : Char} (h : a.toNat ≤ 0x20 ∨ b.toNat ≤ 0x20) : join? a b = none := by
  have htable : ∀ r ∈ composites, 0x20 < r.1 ∧ 0x20 < r.2.1 := by decide +kernel
  have hsyllable : joinSyllable? a b = none := by
    have hpair : ¬(firstLead ≤ a.toNat ∧ firstVowel ≤ b.toNat) := by
      simp only [firstLead,firstVowel]
      omega
    have htail : ¬(firstSyllable ≤ a.toNat ∧ firstTail < b.toNat) := by
      simp only [firstSyllable,firstTail]
      omega
    simp only [joinSyllable?]
    split
    · next hj =>
      simp only [Bool.and_eq_true,decide_eq_true_eq] at hj
      exact absurd ⟨hj.1.1.1,hj.1.2⟩ hpair
    · split
      · next hj =>
        simp only [Bool.and_eq_true,decide_eq_true_eq] at hj
        exact absurd ⟨hj.1.1.1.1,hj.1.2⟩ htail
      · rfl
  have hfind : composites.find? (fun r => r.1 = a.toNat && r.2.1 = b.toNat) = none := by
    rw [List.find?_eq_none]
    intro r hr hab
    simp only [Bool.and_eq_true,decide_eq_true_eq] at hab
    have hlt := htable r hr
    omega
  simp [join?,hsyllable,hfind]

namespace Composing

/-- A blank stays in what has been composed: neither is it joined, nor is anything joined to it. -/
theorem mem_step (s : Composing) (m : Nat × Char) (hc : c.toNat ≤ 0x20) (h : c = m.2 ∨ c ∈ s.reversed) :
    c ∈ (s.step m).reversed := by
  simp only [step]
  split
  · next d hd =>
    obtain ⟨-,hjoin⟩ := Option.ite_none_right_eq_some.mp hd
    obtain ⟨a,ha,hj⟩ := Option.bind_eq_some_iff.mp hjoin
    have hm : c ≠ m.2 := by
      rintro rfl
      rw [join?_of_le (Or.inr hc)] at hj
      cases hj
    have hb : c ≠ a := by
      rintro rfl
      rw [join?_of_le (Or.inl hc)] at hj
      cases hj
    have hs := h.resolve_left hm
    simp only [reversed,ha,Option.toList_some,List.mem_append,List.mem_singleton,hb] at hs
    simp only [reversed,List.mem_append]
    tauto
  · split
    · simpa [reversed] using h
    · simpa [reversed] using h

theorem mem_foldl (ms : List (Nat × Char)) (s : Composing) (hc : c.toNat ≤ 0x20)
    (h : (∃ k, (k,c) ∈ ms) ∨ c ∈ s.reversed) : c ∈ (ms.foldl step s).reversed := by
  induction ms generalizing s with
  | nil => simpa using h
  | cons m ms ih =>
    apply ih
    rcases h with ⟨k,hk⟩ | h
    · rcases List.mem_cons.mp hk with rfl | hk
      · exact Or.inr (mem_step s _ hc (Or.inl rfl))
      · exact Or.inl ⟨k,hk⟩
    · exact Or.inr (mem_step s m hc (Or.inr h))

end Composing

theorem mem_compose {cs : List Char} (hc : c.toNat ≤ 0x20) (h : c ∈ cs) : c ∈ compose cs := by
  have hapart : c ∈ cs.flatMap (takeApart 4) :=
    List.mem_flatMap.mpr ⟨c,h,by simp [takeApart_of_le hc]⟩
  have hordered : (combiningClass c,c) ∈ orderMarks [] (cs.flatMap (takeApart 4)) := mem_orderMarks hapart
  rw [compose,List.mem_reverse]
  exact Composing.mem_foldl _ {} hc (Or.inl ⟨_,hordered⟩)

/-- Each member of a list is mapped, and what it is mapped to is among the results. -/
theorem exists_of_mapM {α β : Type} {f : α → Option β} {l : List α} {m : List β} (h : l.mapM f = some m)
    {a : α} (ha : a ∈ l) : ∃ b ∈ m, f a = some b := by
  induction l generalizing m with
  | nil => cases ha
  | cons d l ih =>
    obtain ⟨e,he,n,hn,rfl⟩ : ∃ e, f d = some e ∧ ∃ n, l.mapM f = some n ∧ e :: n = m := by
      simpa [List.mapM_cons,Option.bind_eq_some_iff] using h
    rcases List.mem_cons.mp ha with rfl | ha
    · exact ⟨e,List.mem_cons_self,he⟩
    · obtain ⟨b,hb,hab⟩ := ih hn ha
      exact ⟨b,List.mem_cons_of_mem e hb,hab⟩

namespace Utf8

theorem encodeChar_of_lt (hc : c.toNat < 0x80) : encodeChar c = [UInt8.ofNat c.toNat] := by
  simp [encodeChar,hc]

theorem le_of_expects {a b : UInt8} {more lo hi : Nat} (h : expects a = some (more,lo,hi))
    (hb : within lo hi b) : 0x80 ≤ b.toNat := by
  have hlo : 0x80 ≤ lo := by
    simp only [expects] at h
    split at h <;> grind
  simp only [within,Bool.and_eq_true,decide_eq_true_eq] at hb
  omega

/-- A byte below 128 is a piece of its own. -/
theorem mem_pieces {b : UInt8} {bytes : List UInt8} (hb : b.toNat < 0x80) (h : b ∈ bytes) :
    .scalar (Char.ofNat b.toNat) ∈ pieces bytes ∨ ∃ stray, .stray stray ∈ pieces bytes := by
  fun_induction pieces bytes <;> grind [within,le_of_expects]

/-- A text has each byte below 128 as a character. -/
theorem mem_of_decode? {b : UInt8} {bytes : List UInt8} {s : String} (h : decode? bytes = some s)
    (hb : b.toNat < 0x80) (hmem : b ∈ bytes) : Char.ofNat b.toNat ∈ s.toList := by
  obtain ⟨cs,hcs,rfl⟩ := Option.map_eq_some_iff.mp h
  rw [String.toList_ofList]
  rcases mem_pieces hb hmem with hp | ⟨stray,hp⟩
  · obtain ⟨c,hc,hchar⟩ := exists_of_mapM hcs hp
    cases hchar
    exact hc
  · obtain ⟨c,-,hchar⟩ := exists_of_mapM hcs hp
    cases hchar

end Utf8

/-- What stands in a text stands in one of its parts, unless it parts them. -/
theorem exists_mem_splitBy {p : Char → Bool} {cs : List Char} (hc : c ∈ cs) (hp : ¬p c) :
    ∃ w ∈ splitBy p cs, c ∈ w := by
  induction cs with
  | nil => cases hc
  | cons d cs ih =>
    rcases List.mem_cons.mp hc with rfl | hc
    · simp only [splitBy,hp]
      cases splitBy p cs <;> simp
    · obtain ⟨w,hw,hcw⟩ := ih hc
      simp only [splitBy]
      split
      · exact ⟨w,List.mem_cons_of_mem _ hw,hcw⟩
      · cases hsplit : splitBy p cs with
        | nil => simp [hsplit] at hw
        | cons v vs =>
          rw [hsplit] at hw
          rcases List.mem_cons.mp hw with rfl | hw
          · exact ⟨d :: w,List.mem_cons_self,List.mem_cons_of_mem d hcw⟩
          · exact ⟨w,List.mem_cons_of_mem _ hw,hcw⟩

end Text

namespace Url

open Text

variable {c : Char}

theorem spelling?_of_le (hc : c.toNat ≤ 0x20) : spelling? c = some [c] :=
  blank_of_forall (P := fun c => spelling? c = some [c]) (by decide +kernel) hc

theorem isForbiddenInDomain_of_le (hc : c.toNat ≤ 0x20) : isForbiddenInDomain c :=
  blank_of_forall (P := fun c => isForbiddenInDomain c) (by decide) hc

/-- A blank outlives the respelling. -/
theorem mem_respell {cs text : List Char} (h : respell? cs = some text) (hc : c.toNat ≤ 0x20) (hmem : c ∈ cs) :
    c ∈ text := by
  obtain ⟨spellings,hs,rfl⟩ := Option.map_eq_some_iff.mp h
  obtain ⟨w,hw,hspelling⟩ := exists_of_mapM hs hmem
  rw [spelling?_of_le hc] at hspelling
  cases hspelling
  exact mem_compose hc (List.mem_flatten.mpr ⟨[c],hw,List.mem_singleton_self c⟩)

theorem domainName?_of_mem {cs : List Char} (hc : c.toNat ≤ 0x20) (hmem : c ∈ cs) : domainName? cs = none := by
  have hlabels : labels? cs = none := by
    rw [labels?,Option.bind_eq_none_iff]
    intro text htext
    rw [← Option.not_isSome_iff_eq_none,Option.isSome_iff_exists]
    rintro ⟨labels,hl⟩
    have hdot : ¬decide (c = '.') := by
      rw [decide_eq_true_eq]
      rintro rfl
      exact absurd hc (by decide)
    obtain ⟨w,hw,hcw⟩ := exists_mem_splitBy (p := (· = '.')) (mem_respell htext hc hmem) hdot
    obtain ⟨l,-,hread⟩ := exists_of_mapM hl hw
    have hforbidden : w.any isForbiddenInDomain := List.any_eq_true.mpr ⟨c,hcw,isForbiddenInDomain_of_le hc⟩
    simp [Label.read?,hforbidden] at hread
  rw [domainName?,hlabels,Option.bind_none]

/-- A blank at the end of a text is a byte of its own. -/
theorem percentDecode_of_blank_end (cs : List Char) (hc : c.toNat ≤ 0x20) :
    percentDecode (cs ++ [c]) = percentDecode cs ++ [UInt8.ofNat c.toNat] := by
  have hlast : Utf8.encodeChar c = [UInt8.ofNat c.toNat] := Utf8.encodeChar_of_lt (by omega)
  have hhex : hexValue? c = none := blank_of_forall (P := (hexValue? · = none)) (by decide) hc
  fun_induction percentDecode cs with
  | case1 => simp [percentDecode,hlast]
  | case2 a b r x y ha hb ih => simp [percentDecode,ha,hb,ih]
  | case3 a b r hab ih =>
    have hstep : percentDecode ('%' :: a :: b :: (r ++ [c])) = 0x25 :: percentDecode (a :: b :: (r ++ [c])) := by
      simp [percentDecode]
    simpa [hstep] using ih
  | case4 d r hno ih =>
    have hstep : percentDecode (d :: (r ++ [c])) = Utf8.encodeChar d ++ percentDecode (r ++ [c]) := by
      rcases r with _ | ⟨a,_ | ⟨b,r⟩⟩
      · simp [percentDecode]
      · by_cases hd : d = '%'
        · subst hd
          simp [percentDecode,hhex,show Utf8.encodeChar '%' = [0x25] from rfl]
        · simp [percentDecode,hd]
      · have hd : d ≠ '%' := fun h => hno a b r h rfl
        simp [percentDecode,hd]
    simp [hstep,ih]

/-- A text with a blank at its end is no host. -/
theorem readHost_of_blank_end (cs : List Char) (hc : c.toNat ≤ 0x20) : ∃ f, readHost (cs ++ [c]) = .error f := by
  rw [readHost]
  cases hb : bracketed? (cs ++ [c]) with
  | some r =>
    simp only [bracketed?] at hb
    split at hb
    · next r' hr =>
      have hlast : r'.getLast? ≠ some ']' := by
        intro hr'
        have hend := congrArg List.getLast? hr
        rw [List.getLast?_concat,List.getLast?_cons,hr'] at hend
        cases hend
        exact absurd hc (by decide)
      simp [hlast] at hb
      exact ⟨_,hb.symm⟩
    · cases hb
  | none =>
    cases hs : Utf8.decode? (percentDecode (cs ++ [c])) with
    | none => exact ⟨_,rfl⟩
    | some s =>
      have hbyte : (UInt8.ofNat c.toNat).toNat = c.toNat := by
        rw [UInt8.toNat_ofNat']
        omega
      have hmem := Utf8.mem_of_decode? hs (b := UInt8.ofNat c.toNat) (by omega)
        (by simp [percentDecode_of_blank_end cs hc])
      rw [hbyte,Char.ofNat_toNat] at hmem
      simp [domainName?_of_mem hc hmem]

end Url

end CloudMetrics
