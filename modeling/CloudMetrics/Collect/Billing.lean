import CloudMetrics.Collect.Context
import CloudMetrics.Time.Timestamp

/-!
# Bills and coupons

Both belong to the account, are worked out once a day, and are cached up to the next time. Of the bills
the latest one counts; of the coupons those that can be used now.
-/
namespace CloudMetrics.Collect

open Cloud Metrics Time

namespace Bills

def amount : Gauge :=
  ⟨"sakuracloud_bill_amount","Amount billed for the latest month (unit: JPY)",
    ["member_id","bill_id","month","paid"]⟩

/-- Whether a bill is dated before another; an undated bill is before every dated one. -/
def isBefore (a b : Bill) : Bool :=
  match a.date, b.date with
  | _, none => false
  | none, some _ => true
  | some s, some t => decide (s < t)

/-- The last of the bills with the greatest date. -/
def latest? (bills : List Bill) : Option Bill :=
  bills.foldl (fun acc b => match acc with
    | none => some b
    | some a => if isBefore b a then some a else some b) none

/-- The month of a bill, empty for an undated one. -/
def month (b : Bill) : String := (b.date.map fun t => monthLabel t DailyRefresh.billingOffset).getD ""

def row (b : Bill) : Sample :=
  amount.fill b.amount [b.memberId,b.id,month b,Decimal.text (boolValue b.paid)]

/-- The batch of some bills. -/
def batch (bills : List Bill) : Batch := ((latest? bills).map row).toList

def collect (ctx : Context) (account : String) (now : Instant) (api : Api) (slot : Slot (List Bill)) :
    Run (Slot (List Bill)) := do
  let served ← ctx.cached .billing now slot "bills" (.call api (.bills account))
  match served.value with
  | none => pure ()
  | some bills => Run.emit (batch bills)
  return served.slot

end Bills

namespace Coupons

def labels : List String := ["id","member_id","contract_id"]

def discount : Gauge := ⟨"sakuracloud_coupon_discount","The balance of coupon (unit: JPY)",labels⟩
def remainingDays : Gauge :=
  ⟨"sakuracloud_coupon_remaining_days","The count of coupon's remaining days",labels⟩
def expDate : Gauge :=
  ⟨"sakuracloud_coupon_exp_date","Coupon expiration date (unix time in milliseconds)",labels⟩

/-- Whether a coupon that ends at an instant can be used now. -/
def isUsable (c : Coupon) (ends now : Instant) : Bool :=
  decide (now < ends) && !c.appliedAt.any fun t => decide (now < t)

/-- The days up to an instant; a day that has begun counts as one. Fractions of a second are dropped
before. -/
def daysLeft (ends now : Instant) : Int :=
  Int.tdiv (Int.tdiv (ends.since now) nanosPerSecond+86399) 86400

def rows (c : Coupon) (ends now : Instant) : Batch :=
  let values := [c.id,c.memberId,c.contractId]
  [discount.fill c.discount values,remainingDays.fill (Float.ofInt (daysLeft ends now)) values,
    expDate.fill (Float.ofInt ends.millis) values]

/-- The batch of the coupons that can be used now. -/
def batch (coupons : List Coupon) (now : Instant) : Batch :=
  coupons.flatMap fun c => rowsOf c.untilAt fun ends => if isUsable c ends now then rows c ends now else []

def collect (ctx : Context) (account : String) (now : Instant) (api : Api) (slot : Slot (List Coupon)) :
    Run (Slot (List Coupon)) := do
  let served ← ctx.cached .billing now slot "coupons" (.call api (.coupons account))
  match served.value with
  | none => pure ()
  | some coupons => Run.emit (batch coupons now)
  return served.slot

end Coupons

end CloudMetrics.Collect
