import CloudMetrics.Decimal.Shortest

/-!
# Layout of decimals

How chosen digits are written: where the point stands and when an exponent is used. Each output
format is one `Layout`.
-/
namespace CloudMetrics.Decimal

structure Layout where
  /-- Of two equally near candidates the even one is written, otherwise the upper one. -/
  evenTies : Bool
  /-- A whole number is followed by a point and a zero. -/
  wholeWithZero : Bool
  /-- With bounds `(lo,hi)`, an exponent is used unless `lo < p ≤ hi`, where `p` counts the digits
  before the point (zero or less: the zeros after it). Without bounds it is never used. -/
  positional : Option (Int × Int)

/-- Digits without an exponent: a metric value, a number inside a label. -/
def plain : Layout := ⟨false,false,none⟩

def zeros (n : Nat) : String := String.ofList (List.replicate n '0')

/-- The digits with their point and no exponent. -/
def Layout.writePoint (l : Layout) (digits : List Char) (point : Int) : String :=
  if point ≤ 0 then "0." ++ zeros (-point).toNat ++ String.ofList digits
  else if digits.length ≤ point.toNat then
    String.ofList digits ++ zeros (point.toNat-digits.length) ++ (if l.wholeWithZero then ".0" else "")
  else String.ofList (digits.take point.toNat) ++ "." ++ String.ofList (digits.drop point.toNat)

/-- One digit before the point, then the exponent with its sign. -/
def writeExponent (digits : List Char) (point : Int) : String :=
  let fraction := digits.drop 1
  String.ofList (digits.take 1) ++ (if fraction.isEmpty then "" else "." ++ String.ofList fraction)
    ++ (if point ≤ 0 then "e" else "e+") ++ toString (point-1)

def Layout.writeDigits (l : Layout) (d : Digits) : String :=
  let digits := Nat.toDigits 10 d.coefficient
  let point := digits.length+d.exponent
  match l.positional with
  | none => l.writePoint digits point
  | some (lo,hi) =>
    if lo < point ∧ point ≤ hi then l.writePoint digits point else writeExponent digits point

def Layout.write (l : Layout) (x : Float) : String :=
  let (negative,kind) := classify x
  let sign := if negative then "-" else ""
  match kind with
  | .nan => "NaN"
  | .infinite => sign ++ "inf"
  | .zero => sign ++ if l.wholeWithZero then "0.0" else "0"
  | .finite d => sign ++ l.writeDigits (d.shortest l.evenTies)

/-- A double with the fewest digits that identify it and no exponent. -/
def text (x : Float) : String := plain.write x

end CloudMetrics.Decimal
