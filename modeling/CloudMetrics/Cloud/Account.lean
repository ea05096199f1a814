import CloudMetrics.Cloud.Storage

/-!
# Accounts

Who the credentials belong to, and what the account pays.
-/
namespace CloudMetrics.Cloud

open Json Time

structure Account where
  id : String := ""
  name : String := ""
  code : String := ""
deriving DecidableEq, Repr, Inhabited

def Account.shape : Shape Account := .record (Fields.start Account.mk |>.text "ID" |>.text "Name" |>.text "Code")

/-- The owner of the credentials. -/
structure AuthStatus where
  account : Account := {}
deriving DecidableEq, Repr, Inhabited

def AuthStatus.shape : Shape AuthStatus :=
  .record (Fields.start AuthStatus.mk |>.nested "Account" {} Account.shape)

/-- The bill of a month. -/
structure Bill where
  id : String := ""
  amount : Float := 0
  date : Option Instant := none
  memberId : String := ""
  paid : Bool := false
deriving Repr, Inhabited

def Bill.shape : Shape Bill :=
  .record (Fields.start Bill.mk |>.text "BillID" |>.number "Amount" |>.optional "Date" dateShape
    |>.text "MemberID" |>.strict "Paid" false .flag)

structure Coupon where
  id : String := ""
  memberId : String := ""
  contractId : String := ""
  discount : Float := 0
  appliedAt : Option Instant := none
  untilAt : Option Instant := none
deriving Repr, Inhabited

def Coupon.shape : Shape Coupon :=
  .record (Fields.start Coupon.mk |>.text "CouponID" |>.text "MemberID" |>.text "ContractID"
    |>.number "Discount" |>.optional "AppliedAt" dateShape |>.optional "UntilAt" dateShape)

end CloudMetrics.Cloud
