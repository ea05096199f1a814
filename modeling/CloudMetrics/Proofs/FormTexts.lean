import CloudMetrics.Proofs.HostBlanks

/-!
# Texts in forms

A text goes into a query as bytes, and the bytes as characters that a query may have. Both ways back give
what was put in: the pieces of the bytes are the characters, and to undo the escapes gives the bytes.
-/
namespace CloudMetrics

namespace Text.Utf8

variable {n : Nat} {rest : List UInt8}

theorem toNat_byte (h : n < 256) : (UInt8.ofNat n).toNat = n := by
  rw [UInt8.toNat_ofNat']
  exact Nat.mod_eq_of_lt h

/-- The bytes of a character after its first one carry six bits each. -/
def tail (n : Nat) : UInt8 := UInt8.ofNat (0x80+n%64)

theorem toNat_tail (n : Nat) : (tail n).toNat = 0x80+n%64 := toNat_byte (by omega)

theorem payload_tail (n : Nat) : payload (tail n) = n%64 := by
  rw [payload,toNat_tail]
  omega

theorem within_tail (n : Nat) : within 0x80 0xBF (tail n) := by
  simp only [within,toNat_tail,Bool.and_eq_true,decide_eq_true_eq]
  omega

theorem pieces_two (hlo : 0x80 ≤ n) (hhi : n < 0x800) :
    pieces (UInt8.ofNat (0xC0+n/64) :: tail n :: rest) = .scalar (Char.ofNat n) :: pieces rest := by
  have hfirst : (UInt8.ofNat (0xC0+n/64)).toNat = 0xC0+n/64 := toNat_byte (by omega)
  have hexpects : expects (UInt8.ofNat (0xC0+n/64)) = some (1,0x80,0xBF) := by
    simp only [expects,hfirst]
    rw [if_neg (by omega),if_pos (by omega)]
  have hn : (0xC0+n/64)%32*64+n%64 = n := by omega
  rw [pieces,if_neg (by omega),hexpects]
  simp only [within_tail,if_true,hfirst,payload_tail,hn]

theorem pieces_three (hlo : 0x800 ≤ n) (hhi : n < 0xD800 ∨ 0xDFFF < n ∧ n < 0x10000) :
    pieces (UInt8.ofNat (0xE0+n/4096) :: tail (n/64) :: tail n :: rest) = .scalar (Char.ofNat n) :: pieces rest := by
  have hfirst : (UInt8.ofNat (0xE0+n/4096)).toNat = 0xE0+n/4096 := toNat_byte (by omega)
  have hexpects : ∃ lo hi, expects (UInt8.ofNat (0xE0+n/4096)) = some (2,lo,hi) ∧ within lo hi (tail (n/64)) := by
    simp only [expects,hfirst,within,toNat_tail,Bool.and_eq_true,decide_eq_true_eq]
    rw [if_neg (by omega),if_neg (by omega)]
    split
    · exact ⟨_,_,rfl,by omega,by omega⟩
    · split
      · exact ⟨_,_,rfl,by omega,by omega⟩
      · rw [if_pos (by omega)]
        exact ⟨_,_,rfl,by omega,by omega⟩
  obtain ⟨lo,hi,hexpects,hwithin⟩ := hexpects
  have hn : (0xE0+n/4096)%16*4096+n/64%64*64+n%64 = n := by omega
  rw [pieces,if_neg (by omega),hexpects]
  simp [hwithin,within_tail,payload_tail,hn]

theorem pieces_four (hlo : 0x10000 ≤ n) (hhi : n < 0x110000) :
    pieces (UInt8.ofNat (0xF0+n/262144) :: tail (n/4096) :: tail (n/64) :: tail n :: rest) =
      .scalar (Char.ofNat n) :: pieces rest := by
  have hfirst : (UInt8.ofNat (0xF0+n/262144)).toNat = 0xF0+n/262144 := toNat_byte (by omega)
  have hexpects : ∃ lo hi, expects (UInt8.ofNat (0xF0+n/262144)) = some (3,lo,hi) ∧
      within lo hi (tail (n/4096)) := by
    simp only [expects,hfirst,within,toNat_tail,Bool.and_eq_true,decide_eq_true_eq]
    rw [if_neg (by omega),if_neg (by omega),if_neg (by omega),if_neg (by omega),if_neg (by omega)]
    split
    · exact ⟨_,_,rfl,by omega,by omega⟩
    · split
      · exact ⟨_,_,rfl,by omega,by omega⟩
      · rw [if_pos (by omega)]
        exact ⟨_,_,rfl,by omega,by omega⟩
  obtain ⟨lo,hi,hexpects,hwithin⟩ := hexpects
  have hn : (0xF0+n/262144)%8*262144+n/4096%64*4096+n/64%64*64+n%64 = n := by omega
  rw [pieces,if_neg (by omega),hexpects]
  simp [hwithin,within_tail,payload_tail,hn]

/-- The bytes of a character are one piece. -/
theorem pieces_encodeChar_append (c : Char) (rest : List UInt8) :
    pieces (encodeChar c ++ rest) = .scalar c :: pieces rest := by
  have hvalid : c.toNat < 0xD800 ∨ 0xDFFF < c.toNat ∧ c.toNat < 0x110000 := c.valid
  have hchar : Char.ofNat c.toNat = c := Char.ofNat_toNat c
  by_cases hone : c.toNat < 0x80
  · rw [encodeChar_of_lt hone,List.singleton_append,pieces,toNat_byte (by omega),if_pos hone,hchar]
  by_cases htwo : c.toNat < 0x800
  · have hbytes : encodeChar c = [UInt8.ofNat (0xC0+c.toNat/64),tail c.toNat] := by
      simp [encodeChar,tail,hone,htwo]
    rw [hbytes,List.cons_append,List.cons_append,List.nil_append,pieces_two (by omega) htwo,hchar]
  by_cases hthree : c.toNat < 0x10000
  · have hbytes : encodeChar c =
        [UInt8.ofNat (0xE0+c.toNat/4096),tail (c.toNat/64),tail c.toNat] := by
      simp [encodeChar,tail,hone,htwo,hthree]
    rw [hbytes,List.cons_append,List.cons_append,List.cons_append,List.nil_append,
      pieces_three (by omega) (by omega),hchar]
  · have hbytes : encodeChar c =
        [UInt8.ofNat (0xF0+c.toNat/262144),tail (c.toNat/4096),tail (c.toNat/64),tail c.toNat] := by
      simp [encodeChar,tail,hone,htwo,hthree]
    rw [hbytes,List.cons_append,List.cons_append,List.cons_append,List.cons_append,List.nil_append,
      pieces_four (by omega) (by omega),hchar]

theorem pieces_encodeList (cs : List Char) : pieces (encodeList cs) = cs.map .scalar := by
  induction cs with
  | nil => rw [encodeList_nil,pieces,List.map_nil]
  | cons c cs ih => rw [encodeList_cons,pieces_encodeChar_append,ih,List.map_cons]

end Text.Utf8

namespace Url

open Text

theorem upperHex_ne_plus {n : Nat} (h : n < 16) : upperHex n ≠ '+' := by
  have hall : ∀ k : Fin 16, upperHex k ≠ '+' := by decide
  exact hall ⟨n,h⟩

theorem percentDecode_percentByte (b : UInt8) (cs : List Char) :
    percentDecode (percentByte b ++ cs) = b :: percentDecode cs := by
  have hb := UInt8.toNat_lt b
  have hhigh : hexValue? (upperHex (b.toNat/16)) = some (b.toNat/16) := hexValue?_upperHex (by omega)
  have hlow : hexValue? (upperHex (b.toNat%16)) = some (b.toNat%16) := hexValue?_upperHex (by omega)
  have hbyte : 16*(b.toNat/16)+b.toNat%16 = b.toNat := Nat.div_add_mod _ _
  rw [percentByte,List.cons_append,List.cons_append,List.cons_append,List.nil_append,percentDecode,hhigh,hlow]
  simp only [hbyte,UInt8.ofNat_toNat]

theorem percentDecode_cons {c : Char} (hc : c ≠ '%') (cs : List Char) :
    percentDecode (c :: cs) = Utf8.encodeChar c ++ percentDecode cs := by
  rcases cs with _ | ⟨a,_ | ⟨b,cs⟩⟩ <;> simp [percentDecode,hc]

theorem formDecode_append_formByte (b : UInt8) (cs : List Char) :
    formDecode (formByte b ++ cs) = b :: formDecode cs := by
  have hb := UInt8.toNat_lt b
  rw [formDecode,List.map_append,formByte]
  split
  · next hspace =>
    rw [hspace]
    exact percentDecode_cons (by decide) _
  · split
    · next hspace hkeeps =>
      rw [Bool.and_eq_true,decide_eq_true_eq] at hkeeps
      obtain ⟨hascii,hkeeps⟩ := hkeeps
      have hall : ∀ k : Fin 0x80, (Char.ofNat k).toNat = k.val := by decide
      have hchar : (Char.ofNat b.toNat).toNat = b.toNat := hall ⟨b.toNat,hascii⟩
      generalize Char.ofNat b.toNat = c at hchar hkeeps
      have hplus : c ≠ '+' := by
        rintro rfl
        exact absurd hkeeps (by decide)
      have hpercent : c ≠ '%' := by
        rintro rfl
        exact absurd hkeeps (by decide)
      rw [List.map_singleton,if_neg hplus,List.singleton_append,percentDecode_cons hpercent,
        Utf8.encodeChar_of_lt (by omega),hchar,UInt8.ofNat_toNat]
      rfl
    · have hhigh := upperHex_ne_plus (n := b.toNat/16) (by omega)
      have hlow := upperHex_ne_plus (n := b.toNat%16) (by omega)
      have hmap : (percentByte b).map (fun c => if c = '+' then ' ' else c) = percentByte b := by
        simp [percentByte,hhigh,hlow]
      rw [hmap]
      exact percentDecode_percentByte b _

theorem formDecode_formEncode (bytes : List UInt8) : formDecode (formEncode bytes) = bytes := by
  induction bytes with
  | nil => rfl
  | cons b bytes ih => rw [formEncode,List.flatMap_cons,formDecode_append_formByte,← formEncode,ih]

theorem formEncode_injective : Function.Injective formEncode :=
  Function.LeftInverse.injective formDecode_formEncode

end Url

end CloudMetrics
