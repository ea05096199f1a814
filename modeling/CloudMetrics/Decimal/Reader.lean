import CloudMetrics.Text.Scan

/-!
# Reading decimals

The double nearest to a decimal text. Accepted are an optional sign, then digits with an optional
point (a digit on at least one side) and an optional exponent, or one of `inf`, `infinity` and
`nan` in any case.
-/
namespace CloudMetrics.Decimal

open Text

def infinity : Float := Float.ofBits 0x7FF0000000000000

def notANumber : Float := Float.ofBits 0x7FF8000000000000

/-- The longest row of digits at the front, and the rest. -/
def spanDigits (cs : List Char) : List Char × List Char := (cs.takeWhile Char.isDigit,cs.dropWhile Char.isDigit)

/-- The double nearest to `m·10^e`. Exponents beyond the range of doubles are not computed. -/
def scale (m : Nat) (e : Int) : Float :=
  let magnitude := (Nat.toDigits 10 m).length+e
  if m = 0 then 0
  else if 400 < magnitude then infinity
  else if magnitude < -400 then 0
  else if 0 ≤ e then Float.ofScientific m false e.toNat
  else Float.ofScientific m true (-e).toNat

/-- An exponent: `e` or `E`, an optional sign, at least one digit, nothing after. -/
def readExponent : List Char → Option Int
  | [] => some 0
  | c :: r =>
    if c ≠ 'e' ∧ c ≠ 'E' then none
    else
      let (negative,digits) := match r with
        | '+' :: r => (false,r)
        | '-' :: r => (true,r)
        | r => (false,r)
      if digits.isEmpty || !digits.all Char.isDigit then none
      else some (if negative then -(numeral digits : Int) else numeral digits)

def readUnsigned (cs : List Char) : Option Float :=
  let lower := cs.map Char.toLower
  if lower = "inf".toList ∨ lower = "infinity".toList then some infinity
  else if lower = "nan".toList then some notANumber
  else
    let (whole,r) := spanDigits cs
    let (fraction,r) := match r with
      | '.' :: r => spanDigits r
      | r => ([],r)
    if whole.isEmpty && fraction.isEmpty then none
    else (readExponent r).map fun e => scale (numeral (whole++fraction)) (e-fraction.length)

/-- The double that a text stands for. -/
def read? (s : String) : Option Float :=
  match s.toList with
  | '-' :: r => (readUnsigned r).map (-·)
  | '+' :: r => readUnsigned r
  | r => readUnsigned r

end CloudMetrics.Decimal
