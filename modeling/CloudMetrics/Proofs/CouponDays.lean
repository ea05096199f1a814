import CloudMetrics.Collect.Billing
import Mathlib.Order.Bounds.Defs

/-!
# The days of a coupon

The batch of the coupons is compared with what a coupon is to be reported by: three samples while it can
be used, none otherwise. A day that has begun is to count as one. It does unless it began less than a
second ago: fractions of a second are dropped before days are rounded up.
-/
namespace CloudMetrics.Collect.Coupons

open Cloud Metrics Time

/-- The coupon ends later, and it has not still to start. -/
def IsActive (now : Instant) (c : Coupon) (ends : Instant) : Prop :=
  c.untilAt = some ends ∧ now < ends ∧ ∀ t, c.appliedAt = some t → t ≤ now

/-- Three samples for every coupon that can be used, none for any other, in the order of the coupons. -/
inductive Reports (now : Instant) : List Coupon → Batch → Prop
  | nil : Reports now [] []
  | active {c : Coupon} {ends : Instant} {coupons : List Coupon} {batch : Batch} :
      IsActive now c ends → Reports now coupons batch →
      Reports now (c :: coupons)
        (discount.fill c.discount [c.id,c.memberId,c.contractId] ::
          remainingDays.fill (Float.ofInt (daysLeft ends now)) [c.id,c.memberId,c.contractId] ::
          expDate.fill (Float.ofInt ends.millis) [c.id,c.memberId,c.contractId] :: batch)
  | other {c : Coupon} {coupons : List Coupon} {batch : Batch} :
      (∀ ends, ¬IsActive now c ends) → Reports now coupons batch → Reports now (c :: coupons) batch

variable {c : Coupon} {ends now : Instant}

theorem isUsable_iff : isUsable c ends now = true ↔ now < ends ∧ ∀ t, c.appliedAt = some t → t ≤ now := by
  simp only [isUsable,Bool.and_eq_true,decide_eq_true_eq,Bool.not_eq_true']
  cases c.appliedAt with
  | none => simp
  | some t => simp [Instant.not_lt]

theorem batch_cons (c : Coupon) (coupons : List Coupon) (now : Instant) :
    batch (c :: coupons) now =
      (rowsOf c.untilAt fun ends => if isUsable c ends now then rows c ends now else []) ++
        batch coupons now := rfl

theorem batch_reports (coupons : List Coupon) (now : Instant) : Reports now coupons (batch coupons now) := by
  induction coupons with
  | nil => exact .nil
  | cons c coupons ih =>
    rw [batch_cons]
    cases hu : c.untilAt with
    | none =>
      refine .other ?_ ih
      rintro ends ⟨he,-⟩
      rw [hu] at he
      cases he
    | some ends =>
      by_cases h : isUsable c ends now = true
      · have ha : IsActive now c ends := ⟨hu,isUsable_iff.mp h⟩
        simp only [rowsOf,Option.map_some,Option.getD_some,h,if_true]
        exact .active ha ih
      · have hn : ∀ t, ¬IsActive now c t := by
          rintro t ⟨ht,hactive⟩
          obtain rfl : ends = t := Option.some.inj (hu.symm.trans ht)
          exact h (isUsable_iff.mpr hactive)
        simp only [rowsOf,Option.map_some,Option.getD_some,h]
        exact .other hn ih

/-- The days after which an instant has come. -/
def enoughDays (ends now : Instant) : Set Int := {n | ends ≤ now.add (.ofDays n)}

section
variable (hnow : ¬now.IsLeap) (hends : ¬ends.IsLeap)

include hnow hends

theorem mem_enoughDays_iff {n : Int} :
    n ∈ enoughDays ends now ↔ ends.total-now.total ≤ 86400000000000*n := by
  have hadd := Instant.not_isLeap_add hnow (.ofDays n)
  have htotal := Instant.total_add hnow (.ofDays n)
  change (now.add (.ofDays n)).total = now.total+86400*n*1000000000 at htotal
  change ends ≤ now.add (.ofDays n) ↔ _
  rw [Instant.le_iff_total hends hadd,htotal]
  omega

/-- Enough days, one less of which are not. -/
theorem isLeast_enoughDays_iff {n : Int} :
    IsLeast (enoughDays ends now) n ↔
      ends.total-now.total ≤ 86400000000000*n ∧ 86400000000000*(n-1) < ends.total-now.total := by
  constructor
  · rintro ⟨hn,hleast⟩
    refine ⟨(mem_enoughDays_iff hnow hends).mp hn,?_⟩
    rw [← Int.not_le]
    intro hfewer
    have hle := hleast ((mem_enoughDays_iff hnow hends).mpr hfewer)
    omega
  · rintro ⟨hle,hlt⟩
    refine ⟨(mem_enoughDays_iff hnow hends).mpr hle,?_⟩
    intro m hm
    rw [mem_enoughDays_iff hnow hends] at hm
    omega

theorem daysLeft_eq (h : now < ends) :
    daysLeft ends now = ((ends.total-now.total)/1000000000+86399)/86400 := by
  rw [Instant.lt_iff_total hnow hends] at h
  have hs : ends.since now = ends.total-now.total := Instant.since_eq_sub hends hnow
  have hseconds : Int.tdiv (ends.total-now.total) 1000000000 = (ends.total-now.total)/1000000000 :=
    Int.tdiv_eq_ediv_of_nonneg (by omega)
  rw [daysLeft,hs]
  change Int.tdiv (Int.tdiv _ 1000000000+86399) 86400 = _
  rw [hseconds]
  exact Int.tdiv_eq_ediv_of_nonneg (by omega)

end

/-- The time left is more than a number of days, but by less than a second. -/
def EndsInFraction (ends now : Instant) : Prop :=
  0 < ends.since now%.ofDays 1 ∧ ends.since now%.ofDays 1 < .ofSeconds 1

section
variable (hnow : ¬now.IsLeap) (hends : ¬ends.IsLeap) (h : now < ends)

include hnow hends

theorem endsInFraction_iff :
    EndsInFraction ends now ↔ 0 < (ends.total-now.total)%86400000000000 ∧
      (ends.total-now.total)%86400000000000 < 1000000000 := by
  rw [EndsInFraction,Instant.since_eq_sub hends hnow]
  rfl

include h

/-- Days are rounded up but for a fraction of a second. -/
theorem isLeast_daysLeft_iff :
    IsLeast (enoughDays ends now) (daysLeft ends now) ↔ ¬EndsInFraction ends now := by
  rw [isLeast_enoughDays_iff hnow hends,endsInFraction_iff hnow hends,daysLeft_eq hnow hends h]
  omega

theorem isLeast_succ_daysLeft (hf : EndsInFraction ends now) :
    IsLeast (enoughDays ends now) (daysLeft ends now+1) := by
  rw [endsInFraction_iff hnow hends] at hf
  rw [isLeast_enoughDays_iff hnow hends,daysLeft_eq hnow hends h]
  omega

theorem one_le_daysLeft_iff : 1 ≤ daysLeft ends now ↔ now.add (.ofSeconds 1) ≤ ends := by
  have hadd := Instant.not_isLeap_add hnow (.ofSeconds 1)
  have htotal := Instant.total_add hnow (.ofSeconds 1)
  change _ = now.total+1000000000 at htotal
  rw [Instant.le_iff_total hadd hends,htotal,daysLeft_eq hnow hends h]
  rw [Instant.lt_iff_total hnow hends] at h
  omega

end

/-- Every coupon that can be used is reported, and no other is. The days that are left to it are the least
number after which it has ended, unless the time left is more than that by less than a second: then one day
is missing. -/
theorem usable_coupons_are_reported (coupons : List Coupon) (now : Instant) :
    Reports now coupons (batch coupons now) ∧
    ∀ ends, now < ends → ¬now.IsLeap → ¬ends.IsLeap →
      (IsLeast (enoughDays ends now) (daysLeft ends now) ↔ ¬EndsInFraction ends now) ∧
      (EndsInFraction ends now → IsLeast (enoughDays ends now) (daysLeft ends now+1)) ∧
      (1 ≤ daysLeft ends now ↔ now.add (.ofSeconds 1) ≤ ends) := by
  refine ⟨batch_reports coupons now,?_⟩
  intro ends h hnow hends
  exact ⟨isLeast_daysLeft_iff hnow hends h,isLeast_succ_daysLeft hnow hends h,
    one_le_daysLeft_iff hnow hends h⟩

/-- A coupon with half a second left can be used, and is said to have no day left. -/
theorem half_a_second_counts_as_no_day :
    let now : Instant := ⟨1717200000,0⟩
    let ends : Instant := ⟨1717200000,500000000⟩
    let c : Coupon := { id := "1", untilAt := some ends }
    IsActive now c ends ∧
      batch [c] now = [discount.fill c.discount ["1","",""],
        remainingDays.fill (Float.ofInt 0) ["1","",""],expDate.fill (Float.ofInt ends.millis) ["1","",""]] ∧
      ¬IsLeast (enoughDays ends now) 0 := by
  intro now ends c
  have hdays : daysLeft ends now = 0 := by decide
  refine ⟨⟨rfl,by decide,?_⟩,?_,?_⟩
  · intro t ht
    cases ht
  · have hbatch : batch [c] now = rows c ends now := rfl
    rw [hbatch,rows,hdays]
  · rintro ⟨henough,-⟩
    have hle := (mem_enoughDays_iff (by decide) (by decide)).mp henough
    exact absurd hle (by decide)

end CloudMetrics.Collect.Coupons
