import CloudMetrics.Proofs.CalendarDays
import CloudMetrics.Time.Timestamp

/-!
# Instants that are read again

A written instant is read again as the instant, a leap second too. Each field is a number in its width and
ends where the mark behind it stands, and each step of the reader takes one of them off the text.
-/
namespace CloudMetrics

namespace Text

theorem numeral_padded (width n : ℕ) : numeral (padded width n) = n := by
  have hdigits : Nat.ofDigitChars 10 (padded width n) 0 = n := by
    rw [padded,Nat.ofDigitChars_append,Nat.ofDigitChars_replicate_zero,Nat.mul_zero]
    exact Nat.ofDigitChars_ten_toDigits
  exact hdigits

theorem isDigit_of_mem_padded {width n : ℕ} {c : Char} (h : c ∈ padded width n) : c.isDigit := by
  rw [padded,List.mem_append] at h
  rcases h with h | h
  · rw [List.eq_of_mem_replicate h]
    decide
  · exact isDigit_of_mem_toDigits h

theorem length_padded {width n : ℕ} (hwidth : 0 < width) (h : n < 10^width) : (padded width n).length = width := by
  have hlength : (decimalDigits n).length ≤ width := (Nat.length_toDigits_le_iff (by decide) hwidth).mpr h
  rw [padded,List.length_append,List.length_replicate]
  omega

theorem padded_ne_nil (width n : ℕ) : padded width n ≠ [] :=
  List.append_ne_nil_of_right_ne_nil _ Nat.toDigits_ne_nil

namespace Scan

variable {α β : Type} {p : Scan α} {a : α} {cs ds rest : List Char} {c : Char}

theorem bind_of {f : α → Scan β} (h : p cs = some (a,rest)) : (p >>= f) cs = f a rest := by
  change (p cs >>= _) = _
  rw [h]
  rfl

theorem satisfy_cons {test : Char → Bool} (h : test c) (rest : List Char) :
    satisfy test (c :: rest) = some (c,rest) := if_pos h

theorem char_cons (c : Char) (rest : List Char) : char c (c :: rest) = some ((),rest) := by
  have h : satisfy (· == c) (c :: rest) = some (c,rest) := satisfy_cons (beq_self_eq_true c) rest
  change (satisfy (· == c) (c :: rest) >>= _) = _
  rw [h]
  rfl

/-- Whether no digit comes next. -/
def EndsDigits (rest : List Char) : Prop := ∀ c ∈ rest.head?, c.isDigit = false

theorem digits_append {least most : ℕ} (hds : ∀ c ∈ ds, c.isDigit) (hleast : least ≤ ds.length)
    (hmost : ds.length ≤ most) (h : EndsDigits rest) : digits least most (ds ++ rest) = some (ds,rest) := by
  have htake : EndsDigits (rest.take (most-ds.length)) := by
    intro c hc
    rw [List.head?_take] at hc
    split at hc
    · cases hc
    · exact h c hc
  rw [digits,List.take_append,List.take_of_length_le hmost]
  simp only [(takeWhile_dropWhile_append hds htake).1,hleast,if_true,List.drop_left]

theorem blanks_of_head (h : ∀ c ∈ cs.head?, isBlank c = false) : blanks cs = some ((),cs) := by
  have hdrop : cs.dropWhile isBlank = cs := (takeWhile_dropWhile_append (List.forall_mem_nil _) h).2
  change some ((),cs.dropWhile isBlank) = _
  rw [hdrop]

end Scan

end Text

namespace Time

open Text Text.Scan

variable {t : Instant} {rest : List Char} {c : Char}

theorem endsDigits_cons (h : c.isDigit = false) (rest : List Char) : EndsDigits (c :: rest) := by
  intro d hd
  cases hd
  exact h

theorem exists_padded (width n : ℕ) : ∃ d ds, padded width n = d :: ds ∧ d.isDigit := by
  obtain ⟨d,ds,hds⟩ := List.exists_cons_of_ne_nil (padded_ne_nil width n)
  exact ⟨d,ds,hds,isDigit_of_mem_padded (hds ▸ List.mem_cons_self)⟩

theorem isBlank_of_isDigit (h : c.isDigit) : isBlank c = false := by
  have hbounds : 48 ≤ c.toNat ∧ c.toNat ≤ 57 := Char.isDigit_iff_toNat.mp h
  simp [isBlank,blankRanges]
  omega

theorem blanks_padded {width n : ℕ} (rest : List Char) :
    blanks (padded width n ++ rest) = some ((),padded width n ++ rest) := by
  obtain ⟨d,ds,hds,hd⟩ := exists_padded width n
  rw [hds]
  refine blanks_of_head fun c hc => ?_
  cases hc
  exact isBlank_of_isDigit hd

theorem scanMark_cons (h : isBlank c = false) (rest : List Char) : scanMark c (c :: rest) = some ((),rest) := by
  have hblanks : blanks (c :: rest) = some ((),c :: rest) := blanks_of_head fun d hd => by cases hd; exact h
  exact (bind_of hblanks).trans (char_cons c rest)

theorem scanShort_padded {n : ℕ} (hn : n < 100) (h : EndsDigits rest) :
    scanShort (padded 2 n ++ rest) = some (n,rest) := by
  have hlength : (padded 2 n).length = 2 := length_padded (by decide) hn
  have hdigits : digits 1 2 (padded 2 n ++ rest) = some (padded 2 n,rest) :=
    digits_append (fun c hc => isDigit_of_mem_padded hc) (by omega) (by omega) h
  rw [scanShort,bind_of (blanks_padded rest),bind_of hdigits,numeral_padded]
  rfl

theorem scanSomeDigits_padded {width n : ℕ} (h : EndsDigits rest) :
    scanSomeDigits (padded width n ++ rest) = some (padded width n,rest) := by
  have hall : ∀ c ∈ padded width n, c.isDigit := fun c hc => isDigit_of_mem_padded hc
  obtain ⟨htake,hdrop⟩ := takeWhile_dropWhile_append hall h
  have hdigits : Scan.takeWhile Char.isDigit (padded width n ++ rest) = some (padded width n,rest) := by
    rw [Scan.takeWhile,htake,hdrop]
  have hsome : (!(padded width n).isEmpty) = true := by simp [padded_ne_nil]
  rw [scanSomeDigits,bind_of hdigits,hsome]
  rfl

theorem scanYear_minus (cs : List Char) :
    scanYear ('-' :: cs) = (scanSomeDigits >>= fun ds => pure (-(numeral ds : ℤ))) cs := rfl

theorem scanYear_plus (cs : List Char) :
    scanYear ('+' :: cs) = (scanSomeDigits >>= fun ds => pure (numeral ds : ℤ)) cs := rfl

theorem scanYear_digit (h : c.isDigit) (cs : List Char) :
    scanYear (c :: cs) = (digits 1 4 >>= fun ds => pure (numeral ds : ℤ)) (c :: cs) := by
  have hblanks : blanks (c :: cs) = some ((),c :: cs) :=
    blanks_of_head fun d hd => by cases hd; exact isBlank_of_isDigit h
  have hpeek : peek (c :: cs) = some (some c,c :: cs) := rfl
  have hminus : c ≠ '-' := by
    rintro rfl
    exact absurd h (by decide)
  have hplus : c ≠ '+' := by
    rintro rfl
    exact absurd h (by decide)
  rw [scanYear,bind_of hblanks,bind_of hpeek]
  simp [hminus,hplus]

/-- A year is read in its width or behind its sign. -/
theorem scanYear_writeYear (y : ℤ) (h : EndsDigits rest) : scanYear (writeYear y ++ rest) = some (y,rest) := by
  rw [writeYear]
  split
  · next hy =>
    have hlength : (padded 4 y.toNat).length = 4 := length_padded (by decide) (by omega)
    have hdigits : digits 1 4 (padded 4 y.toNat ++ rest) = some (padded 4 y.toNat,rest) :=
      digits_append (fun c hc => isDigit_of_mem_padded hc) (by omega) (by omega) h
    have hnumeral : (numeral (padded 4 y.toNat) : ℤ) = y := by
      rw [numeral_padded]
      omega
    obtain ⟨d,ds,hds,hd⟩ := exists_padded 4 y.toNat
    rw [hds,List.cons_append] at hdigits
    rw [hds] at hnumeral
    rw [hds,List.cons_append,scanYear_digit hd,bind_of hdigits,hnumeral]
    rfl
  · next hy =>
    have hdigits : scanSomeDigits (padded 4 y.natAbs ++ rest) = some (padded 4 y.natAbs,rest) :=
      scanSomeDigits_padded h
    split
    · next hneg =>
      have hnumeral : -(numeral (padded 4 y.natAbs) : ℤ) = y := by
        rw [numeral_padded]
        omega
      rw [List.cons_append,scanYear_minus,bind_of hdigits,hnumeral]
      rfl
    · next hpos =>
      have hnumeral : (numeral (padded 4 y.natAbs) : ℤ) = y := by
        rw [numeral_padded]
        omega
      rw [List.cons_append,scanYear_plus,bind_of hdigits,hnumeral]
      rfl

theorem scanFraction_point {width n : ℕ} (hn : 0 < width ∧ width ≤ 9 ∧ n < 10^width) (h : EndsDigits rest) :
    scanFraction ('.' :: (padded width n ++ rest)) = some (n*Nat.pow 10 (9-width),rest) := by
  have hlength := length_padded hn.1 hn.2.2
  have hdigits : digits 1 9 (padded width n ++ rest) = some (padded width n,rest) :=
    digits_append (fun c hc => isDigit_of_mem_padded hc) (by omega) (by omega) h
  have hmore : Scan.takeWhile Char.isDigit rest = some ([],rest) := by
    obtain ⟨htake,hdrop⟩ := takeWhile_dropWhile_append (List.forall_mem_nil fun c => Char.isDigit c) h
    rw [List.nil_append] at htake hdrop
    rw [Scan.takeWhile,htake,hdrop]
  have hpeek : peek ('.' :: (padded width n ++ rest)) = some (some '.','.' :: (padded width n ++ rest)) := rfl
  rw [scanFraction,bind_of hpeek,if_pos rfl,bind_of (char_cons '.' _),bind_of hdigits,bind_of hmore,numeral_padded,
    hlength]
  rfl

/-- A fraction is read in any of its widths. -/
theorem scanFraction_writeFraction {n : ℕ} (hn : n < nanosPerSecond) (hc : c ≠ '.') (hdigit : c.isDigit = false) :
    scanFraction (writeFraction n ++ c :: rest) = some (n,c :: rest) := by
  have hend := endsDigits_cons hdigit rest
  rw [nanosPerSecond] at hn
  rw [writeFraction]
  split
  · next hzero =>
    have hpeek : peek (c :: rest) = some (some c,c :: rest) := rfl
    have hne : some c ≠ some '.' := fun h => hc (Option.some.inj h)
    rw [List.nil_append,scanFraction,bind_of hpeek,if_neg hne,hzero]
    rfl
  · split
    · next hmillis =>
      have hvalue : n/1000000*Nat.pow 10 (9-3) = n := Nat.div_mul_cancel (Nat.dvd_of_mod_eq_zero hmillis)
      rw [List.cons_append,scanFraction_point (by omega) hend,hvalue]
    · split
      · next hmicros =>
        have hvalue : n/1000*Nat.pow 10 (9-6) = n := Nat.div_mul_cancel (Nat.dvd_of_mod_eq_zero hmicros)
        rw [List.cons_append,scanFraction_point (by omega) hend,hvalue]
      · have hvalue : n*Nat.pow 10 (9-9) = n := Nat.mul_one n
        rw [List.cons_append,scanFraction_point (by omega) hend,hvalue]

theorem endsDigits_writeFraction (n : ℕ) (h : EndsDigits rest) : EndsDigits (writeFraction n ++ rest) := by
  rw [writeFraction]
  split_ifs
  · exact h
  · exact endsDigits_cons (by decide) _
  · exact endsDigits_cons (by decide) _
  · exact endsDigits_cons (by decide) _

namespace Instant

/-- The instants that there are: a leap second comes after second 59, and the year is one that dates are read
in. -/
structure IsTime (t : Instant) : Prop where
  nanos_lt : t.nanos < 2*nanosPerSecond
  leap : t.IsLeap → t.seconds%60 = 59
  year : Date.firstYear ≤ (t.dateAt 0).year ∧ (t.dateAt 0).year ≤ Date.lastYear

/-- The fields that an instant is written with. -/
def fields (t : Instant) : Fields :=
  let second := t.secondOfDay.toNat
  ⟨t.dateAt 0,second/3600,second/60%60,second%60+(if t.IsLeap then 1 else 0),t.nanos%nanosPerSecond,0⟩

theorem IsTime.isValid (h : t.IsTime) : (t.dateAt 0).IsValid := Date.isValid_ofDays h.year

/-- The fields before the fraction have two digits. -/
theorem IsTime.two_digits (h : t.IsTime) :
    t.fields.date.month < 100 ∧ t.fields.date.day < 100 ∧ t.fields.hour < 100 ∧ t.fields.minute < 100 ∧
      t.fields.second < 100 := by
  obtain ⟨-,-,-,hmonth,-,hday⟩ := h.isValid
  have hdays : daysInMonth (t.dateAt 0).year (t.dateAt 0).month ≤ 31 := by
    rw [daysInMonth]
    split_ifs <;> decide
  have hleap : (if t.IsLeap then 1 else 0) ≤ 1 := by split <;> decide
  simp only [fields,secondOfDay,secondsPerDay]
  omega

theorem scanLenient_writeList (h : t.IsTime) : scanLenient (t.writeList "+00:00".toList) = some (t.fields,[]) := by
  obtain ⟨hmonth,hday,hhour,hminute,hsecond⟩ := h.two_digits
  have hnanos : t.fields.nanos < nanosPerSecond := Nat.mod_lt _ (by decide)
  have hplus : '+' ≠ '.' ∧ '+'.isDigit = false := by decide
  have htext : t.writeList "+00:00".toList =
      writeYear t.fields.date.year ++ '-' :: (padded 2 t.fields.date.month ++ '-' :: (padded 2 t.fields.date.day ++
        'T' :: (padded 2 t.fields.hour ++ ':' :: (padded 2 t.fields.minute ++ ':' :: (padded 2 t.fields.second ++
          (writeFraction t.fields.nanos ++ '+' :: "00:00".toList)))))) := by
    simp [writeList,fields]
  rw [htext,scanLenient,bind_of (scanYear_writeYear _ (endsDigits_cons (by decide) _)),
    bind_of (scanMark_cons (by decide) _),bind_of (scanShort_padded hmonth (endsDigits_cons (by decide) _)),
    bind_of (scanMark_cons (by decide) _),bind_of (scanShort_padded hday (endsDigits_cons (by decide) _)),
    bind_of (satisfy_cons (by decide) _),bind_of (scanShort_padded hhour (endsDigits_cons (by decide) _)),
    bind_of (scanMark_cons (by decide) _),bind_of (scanShort_padded hminute (endsDigits_cons (by decide) _)),
    bind_of (scanMark_cons (by decide) _),
    bind_of (scanShort_padded hsecond (endsDigits_writeFraction _ (endsDigits_cons hplus.2 _))),
    bind_of (scanFraction_writeFraction hnanos hplus.1 hplus.2)]
  rfl

/-- A second 60 is written for a leap second, and for no other one. -/
theorem IsTime.second_eq (h : t.IsTime) :
    (t.fields.second = 60 ↔ t.IsLeap) ∧
      (if t.fields.second = 60 then 59 else t.fields.second) = t.secondOfDay.toNat%60 := by
  have hleap := h.leap
  by_cases ht : t.IsLeap
  · have hlast := hleap ht
    have hsixty : t.fields.second = 60 := by
      simp only [fields,if_pos ht,secondOfDay,secondsPerDay]
      omega
    rw [if_pos hsixty]
    refine ⟨iff_of_true hsixty ht,?_⟩
    simp only [secondOfDay,secondsPerDay]
    omega
  · have hsecond : t.fields.second = t.secondOfDay.toNat%60 := by
      simp only [fields,if_neg ht,Nat.add_zero]
    have hne : t.fields.second ≠ 60 := by omega
    rw [if_neg hne]
    exact ⟨iff_of_false hne ht,hsecond⟩

theorem toInstant?_fields (h : t.IsTime) : t.fields.toInstant? = some t := by
  obtain ⟨hsixty,hsecond⟩ := h.second_eq
  have hhour : t.fields.hour = t.secondOfDay.toNat/3600 := rfl
  have hminute : t.fields.minute = t.secondOfDay.toNat/60%60 := rfl
  have hdays : t.fields.date.toDays = t.seconds/86400 := by
    change (Date.ofDays ((t.seconds+0)/86400)).toDays = _
    rw [Date.toDays_ofDays,Int.add_zero]
  have hday : t.secondOfDay = t.seconds%86400 := rfl
  have hbounds : t.fields.hour ≤ 23 ∧ t.fields.minute ≤ 59 ∧ t.fields.second ≤ 60 := by
    split at hsecond <;> omega
  have hnanos : t.fields.nanos+(if t.fields.second = 60 then nanosPerSecond else 0) = t.nanos := by
    have hlt := h.nanos_lt
    have hfield : t.fields.nanos = t.nanos%nanosPerSecond := rfl
    simp only [hsixty,IsLeap]
    rw [nanosPerSecond] at hlt hfield ⊢
    split <;> omega
  have hoffset : t.fields.offset = 0 := rfl
  have hlocal : ofLocal t.fields.date.toDays
      ((t.fields.hour*3600+t.fields.minute*60+(if t.fields.second = 60 then 59 else t.fields.second) : ℕ))
      (t.fields.nanos+if t.fields.second = 60 then nanosPerSecond else 0) t.fields.offset = t := by
    have hseconds : t.seconds/86400*secondsPerDay+
        ((t.fields.hour*3600+t.fields.minute*60+t.secondOfDay.toNat%60 : ℕ) : ℤ)-0 = t.seconds := by
      rw [secondsPerDay]
      omega
    rw [hsecond,hnanos,hdays,hoffset,ofLocal,hseconds]
  rw [Fields.toInstant?,if_pos ⟨h.isValid,hbounds.1,hbounds.2.1,hbounds.2.2,by simp [hoffset],by simp [hoffset]⟩]
  simp only [hlocal]
  rw [if_pos h.year]

/-- A written instant is read again. -/
theorem ofLenient?_write (h : t.IsTime) : ofLenient? t.write = some t := by
  have hrun : StateT.run scanLenient (t.writeList "+00:00".toList) = some (t.fields,[]) := scanLenient_writeList h
  rw [ofLenient?,write,String.toList_ofList,Scan.run?,hrun]
  exact toInstant?_fields h

end Instant

end Time

end CloudMetrics
