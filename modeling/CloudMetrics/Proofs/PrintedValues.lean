import CloudMetrics.Config.Settings
import CloudMetrics.Proofs.LineReading
import Mathlib.Data.List.Induction

/-!
# Values that are printed again

A variable's text may read as a truth value or a number, and then this value is kept. Where a text is
asked for, the value is printed. Some texts are how their value is printed, and the others are not: spare
zeros and plus signs are left out, and so are capitals in truth values.
-/
namespace CloudMetrics.Config

open Text

variable {s t : String} {v w : Value} {c : Char} {cs : List Char}

/-- The truth value, or else the whole number, or else the double that a text reads as. -/
inductive Reads (s : String) : Value → Prop where
  | truth (b : Bool) : lower s = toString b → Reads s (.bool b)
  | whole (n : Int) : readInt? s = some n → Reads s (.int n)
  | double (x : Float) : readInt? s = none → Decimal.read? s = some x → Reads s (.float x)

/-- What a text reads as, if anything, is printed as this text. -/
def IsPrinted (s : String) : Prop := ∀ v, Reads s v → v.asText? = some s

theorem lowerChar_of_isDigit (h : c.isDigit) : lowerChar c = c := by
  simp only [Char.isDigit,Bool.and_eq_true,decide_eq_true_eq,UInt32.le_iff_toNat_le] at h
  have hkelvin : c.toNat ≠ 0x212A := by
    intro hc
    rw [Char.toNat] at hc
    exact absurd (hc ▸ h.2) (by decide)
  have hcapital : ¬(c.val ≥ 'A'.val ∧ c.val ≤ 'Z'.val) := by
    rintro ⟨hc,-⟩
    rw [ge_iff_le,UInt32.le_iff_toNat_le] at hc
    exact absurd (Nat.le_trans hc h.2) (by decide)
  rw [lowerChar,if_neg hkelvin]
  exact dif_neg hcapital

/-- A text that begins as the truth values do is no number. -/
theorem no_number_of_lowerChar {d : Char} (hs : s.toList = c :: cs) (hc : lowerChar c = d)
    (hd : d = 't' ∨ d = 'f') : readInt? s = none ∧ Decimal.read? s = none := by
  have hne : ∀ e, lowerChar e ≠ 't' → lowerChar e ≠ 'f' → c ≠ e := by
    rintro e ht hf rfl
    rcases hd with rfl | rfl
    · exact ht hc
    · exact hf hc
  have hdigit : c.isDigit = false := by
    cases h : c.isDigit with
    | false => rfl
    | true =>
      rw [lowerChar_of_isDigit h] at hc
      rcases hd with rfl | rfl <;> exact absurd (hc ▸ h) (by decide)
  have hminus := hne '-' (by decide) (by decide)
  have hplus := hne '+' (by decide) (by decide)
  have hpoint := hne '.' (by decide) (by decide)
  have hletter : c.toLower ≠ 'i' ∧ c.toLower ≠ 'n' := by
    unfold lowerChar at hc
    split at hc
    · rcases hd with rfl | rfl <;> exact absurd hc (by decide)
    · rcases hd with rfl | rfl <;> rw [hc] <;> decide
  constructor
  · simp [readInt?,hs,hminus,hplus,hdigit]
  · simp [Decimal.read?,Decimal.readUnsigned,Decimal.spanDigits,hs,hminus,hplus,hpoint,hdigit,hletter]

theorem no_number_of_truth {b : Bool} (h : lower s = toString b) :
    readInt? s = none ∧ Decimal.read? s = none := by
  have hl : s.toList.map lowerChar = (toString b).toList := by
    rw [← h,lower,String.toList_ofList]
  cases hs : s.toList with
  | nil =>
    rw [hs] at hl
    cases b <;> cases hl
  | cons c cs =>
    rw [hs,List.map_cons] at hl
    cases b with
    | true => exact no_number_of_lowerChar hs (List.cons.inj hl).1 (.inl rfl)
    | false => exact no_number_of_lowerChar hs (List.cons.inj hl).1 (.inr rfl)

theorem readVariable_of_reads (key : String) (h : Reads s v) : readVariable key s = v := by
  cases h with
  | truth b hb =>
    cases b with
    | true =>
      have ht : lower s = "true" := hb
      rw [readVariable,if_pos ht]
    | false =>
      have hf : lower s = "false" := hb
      have ht : lower s ≠ "true" := by
        rw [hf]
        decide
      rw [readVariable,if_neg ht,if_pos hf]
  | whole n hn =>
    have hb : ∀ b, lower s ≠ toString b := fun b hb => by
      rw [(no_number_of_truth hb).1] at hn
      cases hn
    have ht : lower s ≠ "true" := hb true
    have hf : lower s ≠ "false" := hb false
    rw [readVariable,if_neg ht,if_neg hf,hn]
  | double x hn hx =>
    have hb : ∀ b, lower s ≠ toString b := fun b hb => by
      rw [(no_number_of_truth hb).2] at hx
      cases hx
    have ht : lower s ≠ "true" := hb true
    have hf : lower s ≠ "false" := hb false
    rw [readVariable,if_neg ht,if_neg hf,hn,hx]

theorem Reads.unique (h : Reads s v) (h' : Reads s w) : v = w :=
  (readVariable_of_reads "" h).symm.trans (readVariable_of_reads "" h')

theorem readVariable_of_not_reads (key : String) (h : ∀ v, ¬Reads s v) :
    readVariable key s =
      if key ∈ listNames then .list ((splitCommas s).map .text) else .text s := by
  have hb : ∀ b, lower s ≠ toString b := fun b hb => h _ (.truth b hb)
  have hn : readInt? s = none := by
    rw [Option.eq_none_iff_forall_ne_some]
    exact fun n hn => h _ (.whole n hn)
  have hx : Decimal.read? s = none := by
    rw [Option.eq_none_iff_forall_ne_some]
    exact fun x hx => h _ (.double x hn hx)
  have ht : lower s ≠ "true" := hb true
  have hf : lower s ≠ "false" := hb false
  rw [readVariable,if_neg ht,if_neg hf,hn,hx]
  simp only [List.contains_iff_mem]

/-- What is kept of a variable is printed as its text just when the text is printed. -/
theorem asText?_readVariable_iff {key : String} (hkey : key ∉ listNames)
    (h : (readVariable key s).asText? = some t) : t = s ↔ IsPrinted s := by
  by_cases hr : ∃ v, Reads s v
  · obtain ⟨v,hv⟩ := hr
    rw [readVariable_of_reads key hv] at h
    constructor
    · rintro rfl w hw
      rwa [hw.unique hv]
    · intro hp
      rw [hp v hv] at h
      exact (Option.some.inj h).symm
  · have hno : ∀ v, ¬Reads s v := fun v hv => hr ⟨v,hv⟩
    rw [readVariable_of_not_reads key hno,if_neg hkey] at h
    exact iff_of_true (Option.some.inj h).symm fun v hv => absurd hv (hno v)

/-- Letters, digits, minus signs and points are all that printed values are made of. -/
def isPrintable (c : Char) : Bool := c.isAlphanum || c = '-' || c = '.'

theorem isPrintable_of_isDigit (h : c.isDigit) : isPrintable c := by simp [isPrintable,Char.isAlphanum,h]

theorem all_isPrintable_double (x : Float) : (Decimal.text x).toList.all isPrintable := by
  have hsign (negative : Bool) : (if negative then "-" else "").toList.all isPrintable := by
    cases negative <;> decide
  have hsigned {negative : Bool} {digits : String} (h : digits.toList.all isPrintable) :
      ((if negative then "-" else "") ++ digits).toList.all isPrintable := by
    rw [String.toList_append,List.all_append,hsign,h]
    rfl
  rw [Decimal.text,Decimal.Layout.write]
  rcases Decimal.classify x with ⟨negative,kind⟩
  cases kind with
  | nan =>
    have hnan : "NaN".toList.all isPrintable := by decide
    exact hnan
  | infinite => exact hsigned (by decide)
  | zero => exact hsigned (by decide)
  | finite d =>
    have hp := Metrics.TextFormat.isPointed_writePoint
      (Metrics.TextFormat.isDigits_toDigits (d.shortest false).coefficient)
      ((Nat.toDigits 10 (d.shortest false).coefficient).length+(d.shortest false).exponent)
    refine hsigned (List.all_eq_true.mpr fun c hc => ?_)
    rcases hp.mem hc with hd | rfl
    · exact isPrintable_of_isDigit hd
    · decide

theorem all_isPrintable_whole (n : Int) : (toString n).toList.all isPrintable := by
  rw [Metrics.TextFormat.toList_toString_int,List.all_append,Bool.and_eq_true]
  constructor
  · split <;> decide
  · rw [List.all_eq_true]
    exact fun c hc => isPrintable_of_isDigit (Nat.isDigit_of_mem_toDigits (by decide) (by decide) hc)

theorem all_isPrintable (h : Reads s v) (ht : v.asText? = some t) : t.toList.all isPrintable := by
  cases h with
  | truth b =>
    cases ht
    cases b <;> decide
  | whole n =>
    cases ht
    exact all_isPrintable_whole n
  | double x =>
    cases ht
    exact all_isPrintable_double x

/-- A setting with another character in it is the variable's text. -/
theorem eq_of_not_isPrintable {key : String} (hkey : key ∉ listNames)
    (h : (readVariable key s).asText? = some t) (hc : c ∈ t.toList) (hother : isPrintable c = false) :
    t = s := by
  rw [asText?_readVariable_iff hkey h]
  intro v hv
  rw [readVariable_of_reads key hv] at h
  have hprintable := List.all_eq_true.mp (all_isPrintable hv h) c hc
  exact absurd (hother.symm.trans hprintable) Bool.false_ne_true

variable {n : Int} {d : Char} {ds : List Char}

theorem numeral_append (ds : List Char) (c : Char) :
    numeral (ds ++ [c]) = 10*numeral ds+(c.toNat - '0'.toNat) := by
  rw [numeral,List.foldl_append]
  rfl

theorem exists_digitChar (h : c.isDigit) : ∃ k < 10, c = Nat.digitChar k ∧ c.toNat - '0'.toNat = k := by
  have hc := h
  simp only [Char.isDigit,Bool.and_eq_true,decide_eq_true_eq,UInt32.le_iff_toNat_le,ge_iff_le] at hc
  have hzero : '0'.val.toNat = 48 := rfl
  have hnine : '9'.val.toNat = 57 := rfl
  have hval : c.val.toNat = c.toNat := rfl
  refine ⟨c.toNat-48,by omega,?_,rfl⟩
  have hk : c.toNat-48 < 10 := by omega
  have hchar : (Nat.digitChar (c.toNat-48)).toNat = c.toNat := by
    rw [Nat.toNat_digitChar_of_lt_ten hk]
    omega
  exact (Char.toNat_inj.mp hchar).symm

/-- A positive number is printed without zeros before it. -/
theorem head?_toDigits {m : Nat} (h : 0 < m) : (Nat.toDigits 10 m).head? ≠ some '0' := by
  induction m using Nat.strongRecOn with
  | ind m ih =>
    by_cases hm : m < 10
    · rw [Nat.toDigits_of_lt_base hm,List.head?_cons,ne_eq,Option.some.injEq,Nat.digitChar_eq_zero]
      exact h.ne'
    · rw [Nat.toDigits_of_base_le (by decide) (by omega),List.head?_append_of_ne_nil _ Nat.toDigits_ne_nil]
      exact ih (m/10) (by omega) (by omega)

/-- Digits are printed again if no zero stands before them. -/
theorem toDigits_numeral (hd : ∀ c ∈ ds, c.isDigit) (hne : ds ≠ []) (hhead : ds.head? ≠ some '0') :
    Nat.toDigits 10 (numeral ds) = ds := by
  induction ds using List.reverseRecOn with
  | nil => exact absurd rfl hne
  | append_singleton ds c ih =>
    obtain ⟨k,hk,hc,hval⟩ := exists_digitChar (hd c (by simp))
    rw [numeral_append,hval]
    cases ds with
    | nil =>
      have hnil : numeral [] = 0 := rfl
      rw [hnil,Nat.mul_zero,Nat.zero_add,Nat.toDigits_of_lt_base hk,hc]
      rfl
    | cons e es =>
      have hes := ih (fun c hc => hd c (List.mem_append_left _ hc)) (List.cons_ne_nil _ _) hhead
      have hpos : 0 < numeral (e :: es) := by
        refine Nat.pos_of_ne_zero fun hz => hhead ?_
        rw [hz] at hes
        rw [← hes]
        rfl
      rw [← Nat.toDigits_append_toDigits (by decide) hpos hk,hes,Nat.toDigits_of_lt_base hk,hc]

theorem of_readInt?_digit (h : readInt? s = some n) (hs : s.toList = d :: ds) (hd : d.isDigit) :
    (∀ c ∈ d :: ds, c.isDigit) ∧ n = numeral (d :: ds) := by
  have hminus : d ≠ '-' := by
    rintro rfl
    exact absurd hd (by decide)
  have hplus : d ≠ '+' := by
    rintro rfl
    exact absurd hd (by decide)
  have hread : (d.isDigit = true ∧ ∀ c ∈ ds, c.isDigit = true) ∧
      (numeral (d :: ds) : Int) ≤ 9223372036854775807 ∧ (numeral (d :: ds) : Int) = n := by
    simpa [readInt?,hs,hminus,hplus] using h
  exact ⟨List.forall_mem_cons.mpr hread.1,hread.2.2.symm⟩

theorem of_readInt?_minus (h : readInt? s = some n) (hs : s.toList = '-' :: ds) :
    (∀ c ∈ ds, c.isDigit) ∧ n = -(numeral ds : Int) := by
  have hread : (¬ds = [] ∧ ∀ c ∈ ds, c.isDigit = true) ∧
      (numeral ds : Int) ≤ 9223372036854775808 ∧ -(numeral ds : Int) = n := by
    simpa [readInt?,hs] using h
  exact ⟨hread.1.2,hread.2.2.symm⟩

theorem isPrinted_iff_of_readInt? (h : readInt? s = some n) : IsPrinted s ↔ toString n = s := by
  constructor
  · intro hp
    exact Option.some.inj (hp _ (.whole n h))
  · rintro hn v hv
    rw [hv.unique (.whole n h)]
    exact congrArg some hn

/-- A whole number is written as it is printed when neither a plus sign nor a spare zero is in it. -/
theorem isPrinted_whole_iff (h : readInt? s = some n) :
    IsPrinted s ↔ s = "0" ∨
      ∃ d ds, d.isDigit ∧ d ≠ '0' ∧ (s.toList = d :: ds ∨ s.toList = '-' :: d :: ds) := by
  rw [isPrinted_iff_of_readInt? h]
  constructor
  · rintro rfl
    by_cases hn : n = 0
    · subst hn
      exact .inl rfl
    · obtain ⟨d,ds,hds⟩ := List.exists_cons_of_ne_nil (Nat.toDigits_ne_nil (n := n.natAbs) (b := 10))
      have hmem : d ∈ Nat.toDigits 10 n.natAbs := hds ▸ List.mem_cons_self
      have hd : d.isDigit := Nat.isDigit_of_mem_toDigits (by decide) (by decide) hmem
      have hhead := head?_toDigits (Int.natAbs_pos.mpr hn)
      rw [hds] at hhead
      refine .inr ⟨d,ds,hd,fun hz => hhead (congrArg some hz),?_⟩
      rw [Metrics.TextFormat.toList_toString_int,hds]
      split
      · exact .inr rfl
      · exact .inl rfl
  · rintro (rfl | ⟨d,ds,hd,hzero,hs | hs⟩)
    · cases h
      rfl
    · obtain ⟨hdigits,hn⟩ := of_readInt?_digit h hs hd
      have hprinted := toDigits_numeral hdigits (List.cons_ne_nil _ _) fun hz => hzero (Option.some.inj hz)
      have hsign : ¬n < 0 := by omega
      have habs : n.natAbs = numeral (d :: ds) := by omega
      apply String.toList_inj.mp
      rw [Metrics.TextFormat.toList_toString_int,if_neg hsign,habs,hprinted,hs]
      rfl
    · obtain ⟨hdigits,hn⟩ := of_readInt?_minus h hs
      have hprinted := toDigits_numeral hdigits (List.cons_ne_nil _ _) fun hz => hzero (Option.some.inj hz)
      have hpos : numeral (d :: ds) ≠ 0 := by
        intro hz
        rw [hz] at hprinted
        exact hzero (List.cons.inj hprinted).1.symm
      have hsign : n < 0 := by omega
      have habs : n.natAbs = numeral (d :: ds) := by omega
      apply String.toList_inj.mp
      rw [Metrics.TextFormat.toList_toString_int,if_pos hsign,habs,hprinted,hs]
      rfl

end CloudMetrics.Config
