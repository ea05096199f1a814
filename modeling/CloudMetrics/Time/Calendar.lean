/-!
# The civil calendar

Days of the proleptic Gregorian calendar, counted from 1970-01-01. Years are counted from March, so
that a leap day is the last day of its year, and 400 of them make an era of 146097 days.
-/
namespace CloudMetrics.Time

structure Date where
  year : Int
  month : Nat
  day : Nat
deriving DecidableEq, Repr, Inhabited

def isLeapYear (y : Int) : Bool := y%4 = 0 && (y%100 ≠ 0 || y%400 = 0)

def daysInMonth (y : Int) (m : Nat) : Nat :=
  if m = 2 then if isLeapYear y then 29 else 28
  else if m = 4 || m = 6 || m = 9 || m = 11 then 30
  else 31

namespace Date

/-- The years that dates are read in. -/
def firstYear : Int := -262143

def lastYear : Int := 262142

def IsValid (d : Date) : Prop :=
  firstYear ≤ d.year ∧ d.year ≤ lastYear ∧ 1 ≤ d.month ∧ d.month ≤ 12 ∧
    1 ≤ d.day ∧ d.day ≤ daysInMonth d.year d.month

instance (d : Date) : Decidable d.IsValid := by unfold IsValid; infer_instance

/-- The number of a day, zero for 1970-01-01. -/
def toDays (d : Date) : Int :=
  let year := if d.month ≤ 2 then d.year-1 else d.year
  let era := year/400
  let yearOfEra := year%400
  let dayOfYear := (153*(((d.month+9)%12 : Nat) : Int)+2)/5+d.day-1
  era*146097+(yearOfEra*365+yearOfEra/4-yearOfEra/100+dayOfYear)-719468

/-- The date of a day. -/
def ofDays (n : Int) : Date :=
  let shifted := n+719468
  let era := shifted/146097
  let dayOfEra := shifted%146097
  let yearOfEra := (dayOfEra-dayOfEra/1460+dayOfEra/36524-dayOfEra/146096)/365
  let dayOfYear := dayOfEra-(365*yearOfEra+yearOfEra/4-yearOfEra/100)
  let marchMonth := (5*dayOfYear+2)/153
  let day := dayOfYear-(153*marchMonth+2)/5+1
  let month := if marchMonth < 10 then marchMonth+3 else marchMonth-9
  ⟨yearOfEra+era*400+(if month ≤ 2 then 1 else 0),month.toNat,day.toNat⟩

example : toDays ⟨1970,1,1⟩ = 0 ∧ toDays ⟨2024,2,29⟩ = 19782 ∧ ofDays 19782 = ⟨2024,2,29⟩ := by decide

end Date

end CloudMetrics.Time
