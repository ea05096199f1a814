import CloudMetrics.Decimal.Layout
import Mathlib

/-!
# Digits of large whole numbers

A double has 53 bits, so a whole number of 64 bits is rounded to a multiple of 2048. What is printed is the
shortest number that is read as this double again, and the whole numbers around it that are hold a multiple of
a thousand. So the digits of a whole number from `2^63` to `2^64` end, once it is a double, in three zeros.
-/
namespace CloudMetrics.Decimal

open Float.Model Float.Model.UnpackedFloat

variable {m k n : ℕ} {e : ℤ}

theorem mantissa_shiftRight (x : ExtendedMantissa) (k : ℕ) : (x >>> k).mantissa = x.mantissa/2^k := by
  induction k with
  | zero => exact (Nat.div_one _).symm
  | succ k ih =>
    have hstep : (x >>> (k+1)).mantissa = (x >>> k).mantissa/2 := rfl
    rw [hstep,ih,Nat.div_div_eq_div_mul,Nat.pow_succ]

theorem roundedMantissa_cases (x : ExtendedMantissa) :
    x.roundedMantissa = x.mantissa ∨ x.roundedMantissa = x.mantissa+1 := by
  obtain ⟨m,half,rest⟩ := x
  cases half <;> cases rest
  · exact .inl rfl
  · exact .inl rfl
  · have htie : ExtendedMantissa.roundedMantissa ⟨m,true,false⟩ = m+m%2 := rfl
    have hmod := Nat.mod_two_eq_zero_or_one m
    dsimp only
    omega
  · exact .inr rfl

/-- A mantissa with enough bits is cut to 53 of them. -/
theorem shiftToTargetExponent_eq (h : m.log2 = 52+k) (he : -1074 ≤ e+k) :
    shiftToTargetExponent .binary64 m e .exact = ((⟨m,false,false⟩ : ExtendedMantissa) >>> k,e+k) := by
  have htarget : Format.binary64.targetExponent (totalExponent m e) = e+k := by
    simp only [Format.targetExponent,totalExponent,Format.mantissaBits,Format.minExponent,h]
    norm_num
    omega
  have hshift : (e+k-e).toNat = k := by omega
  rw [shiftToTargetExponent,htarget,shiftToExponent,hshift]
  rfl

/-- What is rounded has 53 bits, and 54 only if it is the next power of two. -/
theorem exists_roundWithAccuracy (h : m.log2 = 52+k) (he : -1074 ≤ e+k) :
    ∃ (r : ℕ) (e' : ℤ) (hr : 0 < r),
      roundWithAccuracy .binary64 .positive m e .exact = .finite .positive r e' hr ∧ 2^52 ≤ r ∧ r < 2^53 ∧
      (e' = e+k ∨ e' = e+k+1 ∧ r = 2^52) := by
  have hm : m ≠ 0 := by
    rintro rfl
    rw [Nat.log2_zero] at h
    omega
  obtain ⟨hlo,hhi⟩ := (Nat.log2_eq_iff hm).mp h
  have hquotient : 2^52 ≤ m/2^k ∧ m/2^k < 2^53 := by
    rw [Nat.le_div_iff_mul_le (Nat.two_pow_pos k),Nat.div_lt_iff_lt_mul (Nat.two_pow_pos k),← Nat.pow_add,
      ← Nat.pow_add]
    have hbits : 52+k+1 = 53+k := by omega
    exact ⟨hlo,hbits ▸ hhi⟩
  generalize hx : (⟨m,false,false⟩ : ExtendedMantissa) >>> k = x at *
  have hmantissa : x.mantissa = m/2^k := by rw [← hx,mantissa_shiftRight]
  have hfirst := shiftToTargetExponent_eq h he
  rw [hx] at hfirst
  have hrounded := roundedMantissa_cases x
  rw [hmantissa] at hrounded
  rw [roundWithAccuracy,hfirst]
  dsimp only
  by_cases hcarry : x.roundedMantissa = 2^53
  · have hlog : (2^53 : ℕ).log2 = 52+1 := Nat.log2_two_pow
    rw [hcarry,shiftToTargetExponent_eq hlog (by omega)]
    exact ⟨2^52,e+k+1,by decide,rfl,by decide,by decide,.inr ⟨rfl,rfl⟩⟩
  · have hr : 2^52 ≤ x.roundedMantissa ∧ x.roundedMantissa < 2^53 := by omega
    have hlog : x.roundedMantissa.log2 = 52+0 := (Nat.log2_eq_iff (by omega)).mpr hr
    rw [shiftToTargetExponent_eq hlog (by omega)]
    have hpos : x.roundedMantissa ≠ 0 := by omega
    refine ⟨x.roundedMantissa,e+k,Nat.pos_of_ne_zero hpos,?_,hr.1,hr.2,.inl rfl⟩
    have hkeep : ((⟨x.roundedMantissa,false,false⟩ : ExtendedMantissa) >>> 0).mantissa = x.roundedMantissa := rfl
    dsimp only
    rw [dif_neg (hkeep ▸ hpos)]
    congr 1
    exact Int.add_zero _

theorem toNat_packComponents (s : Sign) (b f : ℕ) (hb : b < 2048) (hf : f < 2^52) :
    (packComponents .binary64 s (BitVec.ofNat 11 b) (BitVec.ofNat 52 f)).toNat = s.toBitVec.toNat*2^63+b*2^52+f := by
  have happend : (packComponents .binary64 s (BitVec.ofNat 11 b) (BitVec.ofNat 52 f)).toNat =
      (s.toBitVec.toNat <<< 11 ||| (BitVec.ofNat 11 b).toNat) <<< 52 ||| (BitVec.ofNat 52 f).toNat := by
    rw [packComponents,BitVec.toNat_append,BitVec.toNat_append]
  have hb' : b < 2^11 := hb
  rw [happend,BitVec.toNat_ofNat,BitVec.toNat_ofNat,Nat.mod_eq_of_lt hb',Nat.mod_eq_of_lt hf,
    ← Nat.shiftLeft_add_eq_or_of_lt hf,← Nat.shiftLeft_add_eq_or_of_lt hb',Nat.shiftLeft_eq,Nat.shiftLeft_eq]
  ring

/-- A double is taken apart into what it was put together from. -/
theorem classify_pack (hr : 0 < m) (hlo : 2^52 ≤ m) (hhi : m < 2^53) (he : -1074 ≤ e) (he' : e ≤ 971) :
    ∃ d : Dyadic, classify ⟨Float.Model.pack (.finite .positive m e hr)⟩ = (false,.finite d) ∧
      d.mantissa = m ∧ d.exponent = e := by
  obtain ⟨b,hb⟩ : ∃ b : ℕ, (b : ℤ) = e+1075 := ⟨(e+1075).toNat,by omega⟩
  have hlog : m.log2 = 52 := (Nat.log2_eq_iff hr.ne').mpr ⟨hlo,hhi⟩
  have hbiased : (e+(Format.binary64.exponentBias : ℤ)+(52 : ℕ)).toNat = b := by
    simp only [Format.exponentBias]
    omega
  have hwidth : 52+1 = Format.binary64.mantissaBits := rfl
  have hpack : UnpackedFloat.pack .binary64 (.finite .positive m e hr) =
      packComponents .binary64 .positive (BitVec.ofNat 11 b) (BitVec.ofNat 52 m) := by
    rw [UnpackedFloat.pack]
    simp only [hlog,hbiased]
    rw [if_neg (by omega),if_pos hwidth]
  have hbits : (Float.toBits ⟨Float.Model.pack (.finite .positive m e hr)⟩).toNat = b*2^52+(m-2^52) := by
    have hmod : BitVec.ofNat 52 m = BitVec.ofNat 52 (m-2^52) := by
      apply BitVec.eq_of_toNat_eq
      rw [BitVec.toNat_ofNat,BitVec.toNat_ofNat]
      omega
    have hwords : (Float.toBits ⟨Float.Model.pack (.finite .positive m e hr)⟩).toNat =
        (UnpackedFloat.pack .binary64 (.finite .positive m e hr)).toNat := rfl
    rw [hwords,hpack,hmod,toNat_packComponents .positive b (m-2^52) (by omega) (by omega)]
    simp [Sign.toBitVec]
  have hpow : Nat.pow 2 52 = 2^52 ∧ Nat.pow 2 63 = 2^63 := ⟨rfl,rfl⟩
  have hexponent : (b*2^52+(m-2^52))/2^52%2048 = b := by omega
  have hfraction : (b*2^52+(m-2^52))%2^52 = m-2^52 := by omega
  have hsign : ¬2^63 ≤ b*2^52+(m-2^52) := by omega
  have hnormal : b ≠ 2047 ∧ b ≠ 0 := by omega
  refine ⟨⟨2^52+(m-2^52),(b : ℤ)-1075,m-2^52 = 0 && 1 < b⟩,?_,by dsimp only; omega,by dsimp only; omega⟩
  simp only [classify,hbits,hpow.1,hpow.2,hexponent,hfraction,hsign,hnormal.1,hnormal.2,if_false,decide_false]

/-- A whole number that needs more than 53 bits is a double with 53 of them. -/
theorem exists_classify_ofNat (h : n.log2 = 52+k) (hk : 0 < k) (hk' : k ≤ 969) :
    ∃ d : Dyadic, classify (Float.ofNat n) = (false,.finite d) ∧ 2^52 ≤ d.mantissa ∧ d.mantissa < 2^53 ∧
      (d.exponent = k ∨ d.exponent = k+1 ∧ d.mantissa = 2^52) := by
  have hn : n ≠ 0 := by
    rintro rfl
    rw [Nat.log2_zero] at h
    omega
  have hlarge : ¬(n < 2^53 ∧ 0 ≤ 22) := by
    rintro ⟨hlt,-⟩
    have hlog := (Nat.log2_lt hn).mpr hlt
    omega
  have hproduct : (n <<< 53*10^(0 : ℤ).toNat).log2 = 52+(k+53) := by
    obtain ⟨hlo,hhi⟩ := (Nat.log2_eq_iff hn).mp h
    have hshift : n <<< 53*10^(0 : ℤ).toNat = n*2^53 := by
      rw [Nat.shiftLeft_eq,Int.toNat_zero,Nat.pow_zero,Nat.mul_one]
    have hbits : 52+(k+53) = 52+k+53 ∧ 52+(k+53)+1 = 52+k+1+53 := by omega
    rw [hshift,Nat.log2_eq_iff (by omega),hbits.2,hbits.1,Nat.pow_add 2 (52+k),Nat.pow_add 2 (52+k+1)]
    exact ⟨Nat.mul_le_mul_right _ hlo,Nat.mul_lt_mul_of_pos_right hhi (by decide)⟩
  obtain ⟨r,e,hr,hround,hlo,hhi,he⟩ := exists_roundWithAccuracy (e := -53+0) hproduct (by omega)
  have hmodel : UnpackedFloat.ofScientific .binary64 n 0 = .finite .positive r e hr := by
    have hsmall : ¬(0 : ℤ) < -((2^11 : ℤ)+n.log2) := by omega
    rw [UnpackedFloat.ofScientific,dif_neg hn,if_neg (by decide),if_neg hsmall,if_pos (by decide)]
    exact hround
  have hfloat : Float.ofNat n = ⟨Float.Model.pack (.finite .positive r e hr)⟩ := by
    rw [← hmodel]
    exact dif_neg hlarge
  have hrange : -1074 ≤ e ∧ e ≤ 971 := by omega
  obtain ⟨d,hd,rfl,rfl⟩ := classify_pack hr hlo hhi hrange.1 hrange.2
  exact ⟨d,hfloat ▸ hd,hlo,hhi,by omega⟩

theorem Interval.isSome_nearest? {i : Interval} {grid : ℕ} (evenTies : Bool)
    (h : i.contains ((i.value/grid+1)*grid)) : (i.nearest? evenTies grid).isSome := by
  simp only [Interval.nearest?,h,Bool.and_true]
  split_ifs <;> rfl

/-- The digits on the grid that is tried at a place, where the value itself has a number of digits. -/
def Interval.digitsAt? (i : Interval) (evenTies : Bool) (size k : ℕ) : Option Digits :=
  (i.nearest? evenTies (Nat.pow 10 (size-(k+1)))).map fun c => ⟨c,((size-(k+1) : ℕ) : ℤ)-i.places⟩

theorem Interval.select_eq (i : Interval) (evenTies : Bool) :
    i.select evenTies = ((List.range 17).findSome? (i.digitsAt? evenTies (digitCount i.value))).getD
      ⟨i.value,-(i.places : ℤ)⟩ := by
  rw [Interval.select,List.head?_filterMap]
  rfl

/-- No finer grid is taken than one that has a multiple in the interval. -/
theorem Interval.exists_select {i : Interval} {evenTies : Bool} {t : ℕ}
    (h : (i.nearest? evenTies (Nat.pow 10 t)).isSome) (hlo : t < digitCount i.value)
    (hhi : digitCount i.value ≤ 17+t) :
    ∃ c u, t ≤ u ∧ i.nearest? evenTies (Nat.pow 10 u) = some c ∧
      i.select evenTies = ⟨c,(u : ℤ)-i.places⟩ := by
  generalize hsize : digitCount i.value = size at hlo hhi
  have hfine : (i.digitsAt? evenTies size (size-1-t)).isSome := by
    have hgrid : size-(size-1-t+1) = t := by omega
    rw [digitsAt?,hgrid,Option.isSome_map,h]
  have hmem : size-1-t ∈ List.range 17 := List.mem_range.mpr (by omega)
  have hfound : ((List.range 17).findSome? (i.digitsAt? evenTies size)).isSome :=
    List.findSome?_isSome_iff.mpr ⟨_,hmem,hfine⟩
  obtain ⟨x,hx⟩ := Option.isSome_iff_exists.mp hfound
  obtain ⟨before,k,after,hrange,hk,hbefore⟩ := List.findSome?_eq_some_iff.mp hx
  have hle : k ≤ size-1-t := by
    have hsorted := List.pairwise_lt_range (n := 17)
    rw [hrange] at hmem hsorted
    rcases List.mem_append.mp hmem with hmem | hmem
    · rw [hbefore _ hmem] at hfine
      cases hfine
    · rcases List.mem_cons.mp hmem with heq | hmem
      · omega
      · exact (List.rel_of_pairwise_cons (List.pairwise_append.mp hsorted).2.1 hmem).le
  obtain ⟨c,hc,rfl⟩ := Option.map_eq_some_iff.mp hk
  exact ⟨c,size-(k+1),by omega,hc,by rw [select_eq,hsize,hx]; rfl⟩

theorem exponent_le_stripZeros (fuel : ℕ) (d : Digits) : d.exponent ≤ (stripZeros fuel d).exponent := by
  induction fuel generalizing d with
  | zero => exact le_rfl
  | succ fuel ih =>
    rw [stripZeros]
    split
    · exact le_trans (by dsimp only; omega) (ih _)
    · exact le_rfl

theorem Interval.contains_of_lt {i : Interval} (hlo : i.low < n) (hhi : n < i.high) : i.contains n := by
  rw [Interval.contains]
  split <;> simp only [Bool.and_eq_true,decide_eq_true_eq] <;> omega

/-- A whole number as a double with some bits to spare. -/
structure Dyadic.IsCoarse (d : Dyadic) : Prop where
  mantissa_pos : 0 < d.mantissa
  exponent_le : 11 ≤ d.exponent

namespace Dyadic.IsCoarse

variable {d : Dyadic}

theorem exists_interval_eq (h : d.IsCoarse) :
    ∃ unit : ℕ, 512 ≤ unit ∧ 4*unit = 2^d.exponent.toNat ∧ d.interval.value = 4*d.mantissa*unit ∧
      d.interval.low < d.interval.value ∧ d.interval.high = d.interval.value+2*unit ∧ d.interval.places = 0 := by
  obtain ⟨hm,he⟩ := h
  obtain ⟨q,hq⟩ : ∃ q : ℕ, d.exponent-2 = q := ⟨(d.exponent-2).toNat,by omega⟩
  have hwhole : 0 ≤ d.exponent-2 := by omega
  have hunit : 2^9 ≤ 2^q := Nat.pow_le_pow_right (by decide) (by omega)
  have hexponent : d.exponent.toNat = q+2 := by omega
  have hinterval : d.interval = ⟨(4*d.mantissa-(if d.narrowBelow then 1 else 2))*2^q,4*d.mantissa*2^q,
      (4*d.mantissa+2)*2^q,d.mantissa%2 = 0,0⟩ := by
    rw [Dyadic.interval,if_pos hwhole,hq]
    simp only [Int.toNat_natCast,Int.toNat_neg_natCast]
    rfl
  rw [hinterval,hexponent,Nat.pow_add]
  refine ⟨2^q,hunit,Nat.mul_comm _ _,rfl,?_,Nat.add_mul _ _ _,rfl⟩
  refine Nat.mul_lt_mul_of_pos_right ?_ (by omega)
  split <;> omega

/-- The interval goes beyond the next multiple of thousand. -/
theorem contains_next (h : d.IsCoarse) : d.interval.contains ((d.interval.value/1000+1)*1000) := by
  obtain ⟨unit,hunit,-,-,hlow,hhigh,-⟩ := h.exists_interval_eq
  apply Interval.contains_of_lt <;> omega

/-- The digits end before the hundreds, if there are about twenty. -/
theorem three_le_exponent_shortest (h : d.IsCoarse) (hlo : 2^63 ≤ d.mantissa*2^d.exponent.toNat)
    (hhi : d.mantissa*2^d.exponent.toNat ≤ 2^64) (evenTies : Bool) : 3 ≤ (d.shortest evenTies).exponent := by
  obtain ⟨unit,-,hunit,hvalue,-,-,hplaces⟩ := h.exists_interval_eq
  have hsize : 19 ≤ digitCount d.interval.value ∧ digitCount d.interval.value ≤ 20 := by
    have hbounds : 2^63 ≤ d.interval.value ∧ d.interval.value ≤ 2^64 := by
      rw [hvalue,Nat.mul_comm 4,Nat.mul_assoc,hunit]
      exact ⟨hlo,hhi⟩
    have hfew := Nat.length_toDigits_le_iff (b := 10) (n := d.interval.value) (k := 20) (by decide) (by decide)
    have hmany := Nat.length_toDigits_le_iff (b := 10) (n := d.interval.value) (k := 18) (by decide) (by decide)
    rw [digitCount]
    omega
  have hthousand := Interval.isSome_nearest? evenTies h.contains_next
  obtain ⟨c,u,hu,-,hselect⟩ := Interval.exists_select (t := 3) hthousand (by omega) (by omega)
  have hstrip := exponent_le_stripZeros (digitCount c) ⟨c,(u : ℤ)-d.interval.places⟩
  have hshortest : d.shortest evenTies = stripZeros (digitCount c) ⟨c,(u : ℤ)-d.interval.places⟩ := by
    rw [Dyadic.shortest,hselect]
  rw [hshortest]
  dsimp only at hstrip
  omega

end Dyadic.IsCoarse

theorem exists_writeDigits_of_three_le {d : Digits} (h : 3 ≤ d.exponent) :
    ∃ ds, (plain.writeDigits d).toList = ds ++ ['0','0','0'] := by
  generalize hds : Nat.toDigits 10 d.coefficient = ds
  obtain ⟨z,hz⟩ : ∃ z : ℕ, d.exponent = z+3 := ⟨(d.exponent-3).toNat,by omega⟩
  have hpoint : ¬(ds.length+d.exponent ≤ 0) ∧ ds.length ≤ (ds.length+d.exponent).toNat ∧
      (ds.length+d.exponent).toNat-ds.length = z+3 := by omega
  have hwrite : plain.writeDigits d = String.ofList ds ++ zeros (z+3) ++ "" := by
    have hplain : plain.writeDigits d = plain.writePoint ds (ds.length+d.exponent) := by rw [← hds]; rfl
    rw [hplain,Layout.writePoint,if_neg hpoint.1,if_pos hpoint.2.1,hpoint.2.2]
    rfl
  refine ⟨ds ++ List.replicate z '0',?_⟩
  rw [hwrite,String.append_empty,String.toList_append,String.toList_ofList,zeros,String.toList_ofList,
    ← List.replicate_append_replicate,List.append_assoc]
  rfl

/-- A whole number that needs 64 bits is written, as a double, with three zeros at its end. -/
theorem exists_text_ofNat (hlo : 2^63 ≤ n) (hhi : n < 2^64) :
    ∃ ds, (text (Float.ofNat n)).toList = ds ++ ['0','0','0'] := by
  have hlog : n.log2 = 52+11 := (Nat.log2_eq_iff (by omega)).mpr ⟨hlo,hhi⟩
  obtain ⟨d,hclass,hm,hm',he⟩ := exists_classify_ofNat hlog (by decide) (by decide)
  have hcoarse : d.IsCoarse := ⟨by omega,by omega⟩
  have hbounds : 2^63 ≤ d.mantissa*2^d.exponent.toNat ∧ d.mantissa*2^d.exponent.toNat ≤ 2^64 := by
    rcases he with he | ⟨he,hm⟩
    · have hpow : d.exponent.toNat = 11 := by omega
      rw [hpow]
      omega
    · have hpow : d.exponent.toNat = 12 := by omega
      rw [hpow,hm]
      decide
  have hexponent := hcoarse.three_le_exponent_shortest hbounds.1 hbounds.2 plain.evenTies
  obtain ⟨ds,hds⟩ := exists_writeDigits_of_three_le hexponent
  refine ⟨ds,?_⟩
  have hwrite : text (Float.ofNat n) = "" ++ plain.writeDigits (d.shortest plain.evenTies) := by
    rw [text,Layout.write,hclass]
    rfl
  rw [hwrite,String.empty_append,hds]

end CloudMetrics.Decimal
