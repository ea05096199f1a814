import CloudMetrics.Text.Scan
import CloudMetrics.Time.Instant

/-!
# Written instants

Timestamps are read in two grammars. Points of a monitor response use the strict one: four digits
for the year, two for every other field, nothing between. Dates inside records use the lenient one:
fields of one or two digits, blanks around them, years of any width after a sign. Both name an offset
from UTC, and both know second 60. Instants are written in UTC with the fewest of 0, 3, 6 or 9
fraction digits that are exact.
-/
namespace CloudMetrics.Time

open Text

/-- The fields of a written instant. -/
structure Fields where
  date : Date
  hour : Nat
  minute : Nat
  second : Nat
  nanos : Nat
  /-- Seconds east of UTC. -/
  offset : Int
deriving DecidableEq, Repr

namespace Fields

/-- The instant that the fields name. Second 60 is the leap second after second 59, and the instant
lies, in UTC, in the years that dates are read in. -/
def toInstant? (f : Fields) : Option Instant :=
  if f.date.IsValid ∧ f.hour ≤ 23 ∧ f.minute ≤ 59 ∧ f.second ≤ 60 ∧ -86400 < f.offset ∧ f.offset < 86400 then
    let leap := f.second = 60
    let second : Nat := f.hour*3600+f.minute*60+(if leap then 59 else f.second)
    let t := Instant.ofLocal f.date.toDays second (f.nanos+if leap then nanosPerSecond else 0) f.offset
    let year := (t.dateAt 0).year
    if Date.firstYear ≤ year ∧ year ≤ Date.lastYear then some t else none
  else none

end Fields

/-- The fraction after a point: its first nine digits count, the others are passed over. -/
def scanFraction : Scan Nat := do
  if (← Scan.peek) = some '.' then
    Scan.char '.'
    let ds ← Scan.digits 1 9
    let _ ← Scan.takeWhile Char.isDigit
    return numeral ds*Nat.pow 10 (9-ds.length)
  else return 0

def isColonOrBlank (c : Char) : Bool := c == ':' || isBlank c

/-- `Z`, or a sign (the minus sign U+2212 too) with hours and minutes. -/
def scanOffset (between : Scan Unit) : Scan Int := do
  match ← Scan.peek with
  | some 'Z' | some 'z' => let _ ← Scan.satisfy fun _ => true; return 0
  | _ =>
    let sign ← Scan.satisfy fun c => c == '+' || c == '-' || c == '\u2212'
    let hours ← Scan.digits 2 2
    between
    let minutes ← Scan.digits 2 2
    Scan.guardWith (numeral minutes ≤ 59)
    let seconds : Int := (numeral hours*3600+numeral minutes*60 : Nat)
    return if sign == '+' then seconds else -seconds

def isDateEnd (c : Char) : Bool := c == 'T' || c == 't' || c == ' '

/-- The grammar of monitor timestamps. -/
def scanStrict : Scan Fields := do
  let year ← Scan.digits 4 4
  Scan.char '-'
  let month ← Scan.digits 2 2
  Scan.char '-'
  let day ← Scan.digits 2 2
  let _ ← Scan.satisfy isDateEnd
  let hour ← Scan.digits 2 2
  Scan.char ':'
  let minute ← Scan.digits 2 2
  Scan.char ':'
  let second ← Scan.digits 2 2
  let nanos ← scanFraction
  let offset ← scanOffset (Scan.char ':')
  return ⟨⟨numeral year,numeral month,numeral day⟩,numeral hour,numeral minute,numeral second,nanos,offset⟩

/-- A number of one or two digits, blanks before it. -/
def scanShort : Scan Nat := do
  Scan.blanks
  return numeral (← Scan.digits 1 2)

/-- A mark between two fields, blanks before it. -/
def scanMark (c : Char) : Scan Unit := do
  Scan.blanks
  Scan.char c

def scanSomeDigits : Scan (List Char) := do
  let ds ← Scan.takeWhile Char.isDigit
  Scan.guardWith !ds.isEmpty
  return ds

/-- A year: up to four digits, or a sign and any number of them. -/
def scanYear : Scan Int := do
  Scan.blanks
  match ← Scan.peek with
  | some '-' => Scan.char '-'; return -(numeral (← scanSomeDigits) : Int)
  | some '+' => Scan.char '+'; return numeral (← scanSomeDigits)
  | _ => return numeral (← Scan.digits 1 4)

/-- `UTC` in any case, if the text goes on with it. -/
def scanUtc : Scan Bool := fun cs =>
  if (cs.take 3).map Char.toUpper = ['U','T','C'] then some (true,cs.drop 3) else some (false,cs)

/-- The grammar of dates inside records. -/
def scanLenient : Scan Fields := do
  let year ← scanYear
  scanMark '-'
  let month ← scanShort
  scanMark '-'
  let day ← scanShort
  let _ ← Scan.satisfy isDateEnd
  let hour ← scanShort
  scanMark ':'
  let minute ← scanShort
  scanMark ':'
  let second ← scanShort
  let nanos ← scanFraction
  Scan.blanks
  let offset ← if ← scanUtc then pure 0 else scanOffset (discard (Scan.takeWhile isColonOrBlank))
  Scan.blanks
  return ⟨⟨year,month,day⟩,hour,minute,second,nanos,offset⟩

namespace Instant

/-- The instant of a monitor timestamp. -/
def ofStrict? (s : String) : Option Instant := (Scan.run? scanStrict s.toList).bind Fields.toInstant?

/-- The instant of a date inside a record. -/
def ofLenient? (s : String) : Option Instant := (Scan.run? scanLenient s.toList).bind Fields.toInstant?

end Instant

/-- A year: four digits in 0 to 9999, otherwise a sign and at least four. -/
def writeYear (y : Int) : List Char :=
  if 0 ≤ y ∧ y ≤ 9999 then padded 4 y.toNat
  else (if y < 0 then '-' else '+') :: padded 4 y.natAbs

/-- A fraction with the fewest of 0, 3, 6 or 9 digits that are exact. -/
def writeFraction (nanos : Nat) : List Char :=
  if nanos = 0 then []
  else if nanos%1000000 = 0 then '.' :: padded 3 (nanos/1000000)
  else if nanos%1000 = 0 then '.' :: padded 6 (nanos/1000)
  else '.' :: padded 9 nanos

namespace Instant

/-- An instant in UTC, with the given text for the offset. -/
def writeList (t : Instant) (offset : List Char) : List Char :=
  let date := t.dateAt 0
  let second := t.secondOfDay.toNat
  let leap := if t.IsLeap then 1 else 0
  writeYear date.year ++ '-' :: padded 2 date.month ++ '-' :: padded 2 date.day ++
    'T' :: padded 2 (second/3600) ++ ':' :: padded 2 (second/60%60) ++
    ':' :: padded 2 (second%60+leap) ++ writeFraction (t.nanos%nanosPerSecond) ++ offset

/-- An instant in UTC with the offset `+00:00`. -/
def write (t : Instant) : String := String.ofList (t.writeList "+00:00".toList)

/-- An instant in UTC with the offset `Z`. -/
def writeZulu (t : Instant) : String := String.ofList (t.writeList ['Z'])

end Instant

/-- A calendar month, `2024-05`, at a place `offset` seconds east. -/
def monthLabel (t : Instant) (offset : Int) : String :=
  let date := t.dateAt offset
  String.ofList (writeYear date.year ++ '-' :: padded 2 date.month)

end CloudMetrics.Time
