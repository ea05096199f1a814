import CloudMetrics.Proofs.WrittenInstants
import Mathlib.Order.SuccPred.Archimedean

/-!
# Months of the calendar

Months are counted from January of the year zero, so they follow each other as integers do. At a place a month
lasts from the start of its first day to the start of the next month's, and each instant is in one month. The
label of a month is its year and its number; both have a fixed width in the years from 0 to 9999, so the labels
of these years are in the order of the months.
-/
namespace CloudMetrics

namespace Text

theorem digit_value {c : Char} (h : c.isDigit) :
    c.toNat - '0'.toNat ≤ 9 ∧ c.toNat = '0'.toNat + (c.toNat - '0'.toNat) := by
  rw [Char.isDigit_iff_toNat] at h
  have hends : '0'.toNat = 48 ∧ '9'.toNat = 57 := ⟨rfl,rfl⟩
  omega

theorem ofDigitChars_cons_eq (c : Char) (cs : List Char) :
    Nat.ofDigitChars 10 (c :: cs) 0 = 10^cs.length*(c.toNat - '0'.toNat)+Nat.ofDigitChars 10 cs 0 := by
  rw [Nat.ofDigitChars_cons,Nat.mul_zero,Nat.zero_add,Nat.ofDigitChars_eq_ofDigitChars_zero]

theorem ofDigitChars_lt {cs : List Char} (h : ∀ c ∈ cs, c.isDigit) : Nat.ofDigitChars 10 cs 0 < 10^cs.length := by
  induction cs with
  | nil => exact Nat.one_pos
  | cons c cs ih =>
    have hrest := ih fun d hd => h d (List.mem_cons_of_mem c hd)
    have hc := (digit_value (h c List.mem_cons_self)).1
    have hmul := Nat.mul_le_mul_left (10^cs.length) hc
    rw [ofDigitChars_cons_eq,List.length_cons,Nat.pow_succ]
    omega

/-- Of two rows of as many digits, the one that is the smaller number comes first. -/
theorem lt_of_ofDigitChars_lt : ∀ {cs ds : List Char}, cs.length = ds.length → (∀ c ∈ cs, c.isDigit) →
    (∀ d ∈ ds, d.isDigit) → Nat.ofDigitChars 10 cs 0 < Nat.ofDigitChars 10 ds 0 → cs < ds
  | [], [], _, _, _, h => absurd h (Nat.lt_irrefl _)
  | c :: cs, d :: ds, hlength, hcs, hds, h => by
    have hlength := Nat.succ.inj hlength
    have hcs' : ∀ x ∈ cs, x.isDigit := fun x hx => hcs x (List.mem_cons_of_mem c hx)
    have hds' : ∀ x ∈ ds, x.isDigit := fun x hx => hds x (List.mem_cons_of_mem d hx)
    have hc := (digit_value (hcs c List.mem_cons_self)).2
    have hd := (digit_value (hds d List.mem_cons_self)).2
    have hrest := ofDigitChars_lt hds'
    rw [ofDigitChars_cons_eq,ofDigitChars_cons_eq,hlength] at h
    generalize c.toNat - '0'.toNat = a at *
    generalize d.toNat - '0'.toNat = b at *
    rw [List.cons_lt_cons_iff]
    rcases Nat.lt_trichotomy a b with hab | rfl | hab
    · have hlt : c.toNat < d.toNat := by omega
      exact .inl (Char.lt_def.mpr (UInt32.lt_iff_toNat_lt.mpr hlt))
    · have hcd : c = d := Char.toNat_inj.mp (hc.trans hd.symm)
      exact .inr ⟨hcd,lt_of_ofDigitChars_lt hlength hcs' hds' (by omega)⟩
    · have hmul := Nat.mul_le_mul_left (10^ds.length) hab
      rw [Nat.mul_succ] at hmul
      omega

theorem padded_lt_padded {width m n : ℕ} (hwidth : 0 < width) (hn : n < 10^width) (h : m < n) :
    padded width m < padded width n := by
  have hvalue (n : ℕ) : Nat.ofDigitChars 10 (padded width n) 0 = n := numeral_padded width n
  refine lt_of_ofDigitChars_lt ?_ (fun c => isDigit_of_mem_padded) (fun d => isDigit_of_mem_padded) ?_
  · rw [length_padded hwidth (h.trans hn),length_padded hwidth hn]
  · rwa [hvalue,hvalue]

/-- What comes behind does not matter once two rows of one length differ. -/
theorem append_lt_append {as bs : List Char} (hlength : as.length = bs.length) (h : as < bs) (cs ds : List Char) :
    as ++ cs < bs ++ ds := by
  induction as generalizing bs with
  | nil =>
    obtain rfl := List.eq_nil_of_length_eq_zero hlength.symm
    exact absurd h (List.lt_irrefl _)
  | cons a as ih =>
    obtain ⟨b,bs,rfl⟩ := List.exists_cons_of_length_eq_add_one hlength.symm
    rw [List.cons_lt_cons_iff] at h
    rw [List.cons_append,List.cons_append,List.cons_lt_cons_iff]
    exact h.imp_right fun h => ⟨h.1,ih (Nat.succ.inj hlength) h.2⟩

end Text

namespace Time

open Text

variable {m n : ℤ} {t u : Instant} {offset : ℤ}

namespace Month

def year (m : ℤ) : ℤ := m/12

/-- The number of a month in its year. -/
def number (m : ℤ) : ℕ := (m%12).toNat+1

/-- The first day of a month. -/
def firstDay (m : ℤ) : ℤ := Date.toDays ⟨year m,number m,1⟩

/-- The years that are counted from March have the leap day of the next year at their end. -/
theorem march_succ (y : ℤ) :
    Date.toDays ⟨y,3,1⟩ = Date.toDays ⟨y-1,3,1⟩+365+(if isLeapYear y then 1 else 0) := by
  have hdays (y : ℤ) : Date.toDays ⟨y,3,1⟩ = 365*y+y/4-y/100+y/400-719468 := by
    simp only [Date.toDays]
    norm_num
    omega
  rw [hdays,hdays]
  split <;> simp only [Date.isLeapYear_iff] at * <;> omega

/-- A month lasts as many days as the calendar says. -/
theorem firstDay_succ (m : ℤ) : firstDay (m+1) = firstDay m+daysInMonth (year m) (number m) := by
  obtain ⟨y,k,hy,hk,hlo,hhi⟩ : ∃ y k : ℤ, year m = y ∧ m%12 = k ∧ 0 ≤ k ∧ k ≤ 11 :=
    ⟨m/12,m%12,rfl,rfl,by omega,by omega⟩
  have hnext : year (m+1) = (if k = 11 then y+1 else y) ∧ number (m+1) = (if k = 11 then 1 else k.toNat+2) := by
    rw [year] at *
    rw [number]
    split <;> omega
  have hnumber : number m = k.toNat+1 := by rw [number,hk]
  rw [firstDay,firstDay,hnext.1,hnext.2,hnumber,hy]
  clear hnext hnumber hy hk m
  by_cases hfebruary : k = 1
  · subst hfebruary
    have hstart : Date.toDays ⟨y,2,1⟩ = Date.toDays ⟨y-1,3,1⟩+337 := by
      simp [Date.toDays]
      omega
    have hlength : (daysInMonth y 2 : ℤ) = 28+(if isLeapYear y then 1 else 0) := by
      rw [daysInMonth,if_pos rfl]
      split <;> rfl
    change Date.toDays ⟨y,3,1⟩ = Date.toDays ⟨y,2,1⟩+(daysInMonth y 2 : ℤ)
    rw [march_succ,hstart,hlength]
    omega
  · interval_cases k <;> simp [Date.toDays,daysInMonth] at * <;> omega

theorem firstDay_le_iff : firstDay m ≤ firstDay n ↔ m ≤ n := by
  refine StrictMono.le_iff_le (strictMono_int_of_lt_succ fun m => ?_)
  have hpos : 0 < daysInMonth (year m) (number m) := by
    unfold daysInMonth
    split_ifs <;> decide
  rw [firstDay_succ]
  omega

/-- The instant when a month starts at a place. -/
def start (m offset : ℤ) : Instant := .ofLocal (firstDay m) 0 0 offset

/-- Whether an instant is in a month at a place. -/
def Holds (m offset : ℤ) (t : Instant) : Prop := start m offset ≤ t ∧ t < start (m+1) offset

theorem holds_iff : Holds m offset t ↔ firstDay m ≤ t.dayAt offset ∧ t.dayAt offset < firstDay (m+1) := by
  simp only [Holds,start,Instant.ofLocal,Instant.le_iff,Instant.lt_iff,Instant.dayAt,secondsPerDay]
  omega

/-- An instant is in no month but one. -/
theorem Holds.eq (h : Holds m offset t) (h' : Holds n offset t) : m = n := by
  rw [holds_iff] at h h'
  by_contra hne
  rcases Int.lt_or_gt_of_ne hne with hlt | hlt
  · have hle : firstDay (m+1) ≤ firstDay n := firstDay_le_iff.mpr hlt
    omega
  · have hle : firstDay (n+1) ≤ firstDay m := firstDay_le_iff.mpr hlt
    omega

/-- The text of a month: its year, and its number with two digits. -/
def label (m : ℤ) : String := String.ofList (writeYear (year m) ++ '-' :: padded 2 (number m))

/-- An instant is in the month of its date. -/
theorem exists_holds (t : Instant) (offset : ℤ) :
    ∃ m, Holds m offset t ∧ year m = (t.dateAt offset).year ∧ number m = (t.dateAt offset).month := by
  have hdate := Date.toDays_ofDays (t.dayAt offset)
  obtain ⟨hmonth,hmonth',hday,hday'⟩ := Date.day_ofDays (t.dayAt offset)
  rw [Instant.dateAt]
  generalize hd : Date.ofDays (t.dayAt offset) = d at *
  have hsplit : d.toDays = Date.toDays ⟨d.year,d.month,1⟩+(d.day-1) := by
    simp only [Date.toDays]
    ring
  have hyear : year (12*d.year+(d.month-1)) = d.year := by
    rw [year]
    omega
  have hnumber : number (12*d.year+(d.month-1)) = d.month := by
    rw [number]
    omega
  refine ⟨12*d.year+(d.month-1),?_,hyear,hnumber⟩
  rw [holds_iff,firstDay_succ,firstDay,hyear,hnumber]
  omega

theorem monthLabel_eq (h : Holds m offset t) : monthLabel t offset = label m := by
  obtain ⟨n,hn,hyear,hnumber⟩ := exists_holds t offset
  obtain rfl := h.eq hn
  rw [monthLabel,label,hyear,hnumber]

theorem label_ne_empty (m : ℤ) : label m ≠ "" := by
  intro h
  have hlist := congrArg String.toList h
  simp [label] at hlist

/-- Of two months of the years that have four digits, the earlier one has the smaller label. -/
theorem label_lt (hlo : 0 ≤ year m) (hhi : year n ≤ 9999) (h : m < n) : label m < label n := by
  have hyears : year m ≤ year n := Int.ediv_le_ediv (by decide) h.le
  have hwrite {y : ℤ} (hlo : 0 ≤ y) (hhi : y ≤ 9999) : writeYear y = padded 4 y.toNat := by
    rw [writeYear,if_pos ⟨hlo,hhi⟩]
  rw [String.lt_iff,label,label,String.toList_ofList,String.toList_ofList,hwrite hlo (hyears.trans hhi),
    hwrite (hlo.trans hyears) hhi]
  have hsmall {k : ℤ} (hk : year k ≤ 9999) : (year k).toNat < 10^4 := by omega
  rcases hyears.lt_or_eq with hlt | heq
  · have hlength : (padded 4 (year m).toNat).length = (padded 4 (year n).toNat).length := by
      rw [length_padded (by decide) (hsmall (hyears.trans hhi)),length_padded (by decide) (hsmall hhi)]
    exact append_lt_append hlength (padded_lt_padded (by decide) (hsmall hhi) (by omega)) _ _
  · have hnumber : number m < number n ∧ number n < 10^2 := by
      rw [year,year] at heq
      rw [number,number]
      omega
    rw [heq]
    refine List.append_left_lt ?_
    rw [List.cons_lt_cons_iff]
    exact .inr ⟨rfl,padded_lt_padded (by decide) hnumber.2 hnumber.1⟩

end Month

end Time

end CloudMetrics
