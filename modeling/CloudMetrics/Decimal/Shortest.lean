/-!
# Shortest decimals

The fewest decimal digits that identify a double. A finite double is taken apart into `m·2^q`; the
reals that round to it form an interval around that value, and every question about the interval
is asked in whole multiples of one power of ten, so no step rounds. Main statement:
`Interval.nearest?_fits`, the multiple that is chosen lies in the interval.
-/
namespace CloudMetrics.Decimal

/-- A positive value `mantissa·2^exponent`. -/
structure Dyadic where
  mantissa : Nat
  exponent : Int
  /-- The next double below is only half as far as the next above. -/
  narrowBelow : Bool := false
deriving DecidableEq, Repr

inductive Class where
  | nan
  | infinite
  | zero
  | finite (d : Dyadic)
deriving DecidableEq, Repr

/-- The sign bit and the kind of a double. -/
def classify (x : Float) : Bool × Class :=
  let bits : Nat := x.toBits.toNat
  let biased : Nat := bits/Nat.pow 2 52%2048
  let fraction : Nat := bits%Nat.pow 2 52
  (Nat.pow 2 63 ≤ bits,
    if biased = 2047 then if fraction = 0 then .infinite else .nan
    else if biased = 0 then
      if fraction = 0 then .zero else .finite ⟨fraction,-1074,false⟩
    else .finite ⟨Nat.pow 2 52+fraction,(biased : Int)-1075,fraction = 0 && 1 < biased⟩)

/-- A decimal `coefficient·10^exponent`. -/
structure Digits where
  coefficient : Nat
  exponent : Int
deriving DecidableEq, Repr

/-- The interval of a value, its ends and the value itself counted in units of `10^(-places)`. -/
structure Interval where
  low : Nat
  value : Nat
  high : Nat
  closed : Bool
  places : Nat
deriving DecidableEq, Repr

/-- Halfway to the neighbours, ends included when the mantissa is even. -/
def Dyadic.interval (d : Dyadic) : Interval :=
  let quarter := d.exponent-2
  let unit := if 0 ≤ quarter then Nat.pow 2 quarter.toNat else Nat.pow 5 (-quarter).toNat
  let below := if d.narrowBelow then 1 else 2
  ⟨(4*d.mantissa-below)*unit,4*d.mantissa*unit,(4*d.mantissa+2)*unit,d.mantissa%2 = 0,
    (-quarter).toNat⟩

def Interval.contains (i : Interval) (n : Nat) : Bool :=
  if i.closed then i.low ≤ n && n ≤ i.high else i.low < n && n < i.high

def digitCount (n : Nat) : Nat := (Nat.toDigits 10 n).length

/-- The two neighbours of the value among the multiples of `grid`: the one inside the interval, of
two the nearer, of two equally near the even one or the upper one. -/
def Interval.nearest? (i : Interval) (evenTies : Bool) (grid : Nat) : Option Nat :=
  let f := i.value/grid
  let below := i.contains (f*grid)
  let above := i.contains ((f+1)*grid)
  if below && above then
    let gap := i.value%grid
    if 2*gap < grid then some f
    else if grid < 2*gap then some (f+1)
    else if evenTies && f%2 = 0 then some f else some (f+1)
  else if below then some f
  else if above then some (f+1)
  else none

/-- Drops trailing zeros, at most `fuel` of them. -/
def stripZeros : Nat → Digits → Digits
  | 0, d => d
  | fuel+1, d =>
    if d.coefficient%10 = 0 && d.coefficient ≠ 0 then
      stripZeros fuel ⟨d.coefficient/10,d.exponent+1⟩
    else d

/-- The multiple on the coarsest grid that has one in the interval, trying 1 to 17 digits. -/
def Interval.select (i : Interval) (evenTies : Bool) : Digits :=
  let size := digitCount i.value
  let tries := (List.range 17).filterMap fun k =>
    let t := size-(k+1)
    (i.nearest? evenTies (Nat.pow 10 t)).map fun c => (⟨c,(t : Int)-i.places⟩ : Digits)
  tries.head?.getD ⟨i.value,-(i.places : Int)⟩

/-- The digits of a positive value, without trailing zeros. -/
def Dyadic.shortest (d : Dyadic) (evenTies : Bool) : Digits :=
  let s := d.interval.select evenTies
  stripZeros (digitCount s.coefficient) s

theorem Interval.nearest?_fits {i : Interval} {evenTies : Bool} {grid c : Nat}
    (h : i.nearest? evenTies grid = some c) : i.contains (c*grid) := by
  simp only [Interval.nearest?] at h
  split at h
  · rename_i both
    simp only [Bool.and_eq_true] at both
    split at h
    · cases h; exact both.1
    · split at h
      · cases h; exact both.2
      · split at h
        · cases h; exact both.1
        · cases h; exact both.2
  · split at h
    · cases h; assumption
    · split at h
      · cases h; assumption
      · cases h

end CloudMetrics.Decimal
