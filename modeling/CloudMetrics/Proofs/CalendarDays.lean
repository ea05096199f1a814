import CloudMetrics.Time.Calendar
import Mathlib.Tactic.IntervalCases
import Mathlib.Tactic.Ring

/-!
# Days and dates

Each day has a date of the calendar, and its number is the day's. An era is taken apart as the calendar puts
it together: centuries of 36524 days, in them rows of four years of 1461 days, and years of 365 days, where
the last part of each may be a day longer or shorter.
-/
namespace CloudMetrics.Time.Date

/-- The days of an era before its year `y`. -/
def yearStart (y : ℤ) : ℤ := 365*y+y/4-y/100

/-- Whether the year `y` of an era, counted from March, has a day `d`; the leap day is day 365. -/
structure IsDayOfYear (y d : ℤ) : Prop where
  year_nonneg : 0 ≤ y
  year_lt : y < 400
  day_nonneg : 0 ≤ d
  day_le : d ≤ 365
  leap : d = 365 → isLeapYear (y+1)

variable {n y d : ℤ}

theorem isLeapYear_iff : isLeapYear y ↔ y%4 = 0 ∧ (y%100 ≠ 0 ∨ y%400 = 0) := by
  simp [isLeapYear]

/-- Each day of an era is a day of one of its years. -/
theorem exists_isDayOfYear (hlo : 0 ≤ n) (hhi : n < 146097) : ∃ y d, IsDayOfYear y d ∧ n = yearStart y+d := by
  obtain ⟨e,r,he,hr,hn⟩ : ∃ e r : ℤ, (0 ≤ e ∧ e ≤ 3) ∧ (0 ≤ r ∧ (r < 36524 ∨ e = 3 ∧ r = 36524)) ∧ n = 36524*e+r :=
    ⟨min (n/36524) 3,n-36524*min (n/36524) 3,by omega,by omega,by omega⟩
  obtain ⟨k,s,hk,hs,hr⟩ : ∃ k s : ℤ, (0 ≤ k ∧ k ≤ 24) ∧
      (0 ≤ s ∧ (s < 1460 ∨ s = 1460 ∧ (k < 24 ∨ e = 3))) ∧ r = 1461*k+s :=
    ⟨r/1461,r-1461*(r/1461),by omega,by omega,by omega⟩
  obtain ⟨j,d,hj,hd,hs⟩ : ∃ j d : ℤ, (0 ≤ j ∧ j ≤ 3) ∧
      (0 ≤ d ∧ (d < 365 ∨ d = 365 ∧ j = 3 ∧ s = 1460)) ∧ s = 365*j+d :=
    ⟨min (s/365) 3,s-365*min (s/365) 3,by omega,by omega,by omega⟩
  refine ⟨100*e+4*k+j,d,⟨by omega,by omega,by omega,by omega,?_⟩,?_⟩
  · rw [isLeapYear_iff]
    omega
  · rw [yearStart]
    omega

/-- The year of a day of an era, from the number of the day alone. -/
theorem yearOfEra_eq (h : IsDayOfYear y d) (hn : n = yearStart y+d) :
    (n-n/1460+n/36524-n/146096)/365 = y := by
  obtain ⟨hlo,hhi,hday,hle,hleap⟩ := h
  obtain ⟨e,k,j,he,hk,hj,rfl⟩ : ∃ e k j : ℤ,
      (0 ≤ e ∧ e ≤ 3) ∧ (0 ≤ k ∧ k ≤ 24) ∧ (0 ≤ j ∧ j ≤ 3) ∧ y = 100*e+4*k+j :=
    ⟨y/100,y%100/4,y%4,by omega,by omega,by omega,by omega⟩
  have hlast : d = 365 → j = 3 ∧ (k < 24 ∨ e = 3) := by
    intro hd
    have hy := hleap hd
    rw [isLeapYear_iff] at hy
    omega
  have hstart : n = 36524*e+1461*k+365*j+d := by
    rw [hn,yearStart]
    omega
  have hcentury : n/36524-n/146096 = e := by
    have hr : 1461*k+365*j+d < 36524 ∨ e = 3 ∧ n = 146096 := by omega
    rcases hr with hr | ⟨rfl,rfl⟩
    · have hwhole : n/36524 = e := by omega
      have hnone : n/146096 = 0 := by omega
      omega
    · rfl
  have hfour : n/1460 = 25*e+k+(24*e+k+365*j+d)/1460 := by omega
  generalize hq : (24*e+k+365*j+d)/1460 = q at hfour
  have hspare : 0 ≤ d-q ∧ d-q ≤ 364 := by omega
  have hsum : n-n/1460+n/36524-n/146096 = d-q+(100*e+4*k+j)*365 := by
    rw [Int.add_sub_assoc,hcentury,hfour,hstart]
    ring
  have hlt : d-q < 365 := Int.lt_add_one_of_le hspare.2
  rw [hsum,Int.add_mul_ediv_right _ _ (by decide),Int.ediv_eq_zero_of_lt hspare.1 hlt,Int.zero_add]

theorem IsDayOfYear.month (h : IsDayOfYear y d) : 0 ≤ (5*d+2)/153 ∧ (5*d+2)/153 ≤ 11 := by
  have hlo := h.day_nonneg
  have hhi := h.day_le
  omega

/-- The date of a day: months are counted from March, and January and February belong to the next year. -/
def fromMarch (era y d : ℤ) : Date :=
  let m := (5*d+2)/153
  ⟨y+era*400+(if m < 10 then 0 else 1),(if m < 10 then m+3 else m-9).toNat,(d-(153*m+2)/5+1).toNat⟩

theorem exists_fromMarch (n : ℤ) :
    ∃ era y d, IsDayOfYear y d ∧ n+719468 = 146097*era+(yearStart y+d) ∧ ofDays n = fromMarch era y d := by
  obtain ⟨y,d,h,hday⟩ := exists_isDayOfYear (n := (n+719468)%146097) (by omega) (by omega)
  have hyear := yearOfEra_eq h hday
  have hd : (n+719468)%146097-yearStart y = d := by omega
  have hmonth := h.month
  refine ⟨(n+719468)/146097,y,d,h,by omega,?_⟩
  rw [yearStart] at hd
  simp only [ofDays,fromMarch,hyear,hd]
  congr 2
  split <;> split <;> omega

theorem toDays_ofDays (n : ℤ) : toDays (ofDays n) = n := by
  obtain ⟨era,y,d,h,hn,hdate⟩ := exists_fromMarch n
  obtain ⟨hlo,hhi⟩ := h.month
  obtain ⟨hyear,hyear',hday,hday',-⟩ := h
  rw [yearStart] at hn
  rw [hdate,fromMarch]
  generalize hm : (5*d+2)/153 = m at *
  interval_cases m <;> simp [toDays] <;> omega

/-- A day's date has a month of the year and a day of the month. -/
theorem day_ofDays (n : ℤ) : 1 ≤ (ofDays n).month ∧ (ofDays n).month ≤ 12 ∧ 1 ≤ (ofDays n).day ∧
    (ofDays n).day ≤ daysInMonth (ofDays n).year (ofDays n).month := by
  obtain ⟨era,y,d,h,-,hdate⟩ := exists_fromMarch n
  obtain ⟨hlo,hhi⟩ := h.month
  obtain ⟨-,-,hday,hday',hleap⟩ := h
  have hfebruary : d ≤ 364 ∨ isLeapYear (y+era*400+1) := by
    rw [isLeapYear_iff] at hleap ⊢
    omega
  rw [hdate,fromMarch]
  generalize hm : (5*d+2)/153 = m at *
  by_cases hlast : m = 11
  · subst hlast
    refine ⟨by simp,by simp,by simp; omega,?_⟩
    change (d-337+1).toNat ≤ daysInMonth (y+era*400+1) 2
    rw [daysInMonth,if_pos rfl]
    split
    · omega
    · next hcommon =>
      have hd := hfebruary.resolve_right hcommon
      omega
  · interval_cases m <;> simp [daysInMonth] <;> omega

/-- A day's date is one of the calendar, as far as its year is. -/
theorem isValid_ofDays (h : firstYear ≤ (ofDays n).year ∧ (ofDays n).year ≤ lastYear) : (ofDays n).IsValid :=
  ⟨h.1,h.2,day_ofDays n⟩

end CloudMetrics.Time.Date
