/-!
# Punycode

A text in letters, digits and hyphens: its ASCII characters, a hyphen, and then numbers that put the other
characters in. They are put in in the order of their codes, each number being the distance from the place
before, counted round by round through the text for one code after the other. A number is written with
its lowest digit first, in 36 digits whose weights adapt to the numbers before.
-/
namespace CloudMetrics.Text.Punycode

/-- The value of a digit: letters in any case, then the ten figures. -/
def digitValue? (c : Char) : Option Nat :=
  if c.isLower then some (c.toNat-0x61)
  else if c.isUpper then some (c.toNat-0x41)
  else if c.isDigit then some (c.toNat-0x30+26)
  else none

def digit (d : Nat) : Char := if d < 26 then Char.ofNat (0x61+d) else Char.ofNat (0x30+d-26)

/-- A digit below this is the last one of its number. Places count in steps of 36. -/
def threshold (place bias : Nat) : Nat :=
  if place ≤ bias then 1 else if bias+26 ≤ place then 26 else place-bias

theorem threshold_pos (place bias : Nat) : 1 ≤ threshold place bias := by
  unfold threshold
  split
  · omega
  · split <;> omega

def firstBias : Nat := 72

/-- The first character that is no ASCII one. -/
def firstCode : Nat := 0x80

/-- A distance brought down below 456, and 36 for each step on the way. -/
def scaleDown (distance place : Nat) : Nat × Nat :=
  if 455 < distance then scaleDown (distance/35) (place+36) else (distance,place)
termination_by distance
decreasing_by exact Nat.div_lt_self (by omega) (by omega)

/-- The bias after a distance, when the text has a number of characters. -/
def adapt (distance count : Nat) (isFirst : Bool) : Nat :=
  let halved := if isFirst then distance/700 else distance/2
  let (rest,place) := scaleDown (halved+halved/count) 0
  place+36*rest/(rest+38)

/-- Numbers are of 32 bits. -/
def maxNumber : Nat := 4294967295

/-- A text that is read: what is put in so far, and the number that is begun. -/
structure Reading where
  text : List Char
  code : Nat := firstCode
  bias : Nat := firstBias
  /-- Where the number starts from, and where it leads so far. -/
  start : Nat := 0
  index : Nat := 0
  weight : Nat := 1
  place : Nat := 36

namespace Reading

/-- Puts the next character in, at the end of a number. -/
def insert? (s : Reading) : Option Reading :=
  let count := s.text.length+1
  let code := s.code+s.index/count
  let i := s.index%count
  if code.isValidChar then
    some
      { text := s.text.insertIdx i (Char.ofNat code), code
        bias := adapt (s.index-s.start) count (s.start = 0), start := i+1, index := i+1 }
  else none

/-- Reads a digit. -/
def step? (s : Reading) (c : Char) : Option Reading :=
  (digitValue? c).bind fun d =>
    let t := threshold s.place s.bias
    let s := { s with index := s.index+d*s.weight }
    if maxNumber < s.index then none
    else if d < t then s.insert?
    else if maxNumber < s.weight*(36-t) then none
    else some { s with weight := s.weight*(36-t), place := s.place+36 }

/-- Whether no number is begun. -/
def isDone (s : Reading) : Bool := s.place = 36

end Reading

/-- The ASCII characters before the last hyphen, and the digits after it. A hyphen at the front has none
before it and is no digit. -/
def cut (cs : List Char) : List Char × List Char :=
  let digits := (cs.reverse.takeWhile (· ≠ '-')).reverse
  if cs.length ≤ digits.length+1 then ([],cs) else (cs.take (cs.length-digits.length-1),digits)

/-- The text that is written. Its capital letters become small ones. -/
def decode? (cs : List Char) : Option (List Char) :=
  let (ascii,digits) := cut cs
  (digits.foldlM Reading.step? { text := ascii.map Char.toLower }).bind fun s =>
    if s.isDone then some s.text else none

/-- The digits of a number. -/
def writeNumber (bias place n : Nat) : List Char :=
  let t := threshold place bias
  if n < t then [digit n]
  else digit (t+(n-t)%(36-t)) :: writeNumber bias (place+36) ((n-t)/(36-t))
termination_by n
decreasing_by
  have := threshold_pos place bias
  exact Nat.lt_of_le_of_lt (Nat.div_le_self _ _) (by omega)

/-- A text that is written: its digits, the distance since the last one, and the number of characters
that are in. -/
structure Writing where
  digits : List Char := []
  distance : Nat := 0
  bias : Nat := firstBias
  count : Nat

/-- Passes a character while those of a code are put in. -/
def Writing.pass (asciiCount code : Nat) (s : Writing) (c : Char) : Writing :=
  if c.toNat < code then { s with distance := s.distance+1 }
  else if c.toNat = code then
    { digits := s.digits ++ writeNumber s.bias 36 s.distance
      bias := adapt s.distance (s.count+1) (s.count = asciiCount), count := s.count+1 }
  else s

/-- Puts the characters of each code in; the codes ascend. -/
def writeCodes (cs : List Char) (asciiCount : Nat) : List Nat → Nat → Writing → Writing
  | [], _, s => s
  | code :: codes, next, s =>
    let s := { s with distance := s.distance+(code-next)*(s.count+1) }
    let s := cs.foldl (Writing.pass asciiCount code) s
    writeCodes cs asciiCount codes (code+1) { s with distance := s.distance+1 }

def isAscii (c : Char) : Bool := c.toNat < 0x80

/-- A text in ASCII characters. -/
def encode (cs : List Char) : List Char :=
  let ascii := cs.filter isAscii
  let codes := (((cs.filter (!isAscii ·)).map Char.toNat).mergeSort (· ≤ ·)).eraseDups
  let s := writeCodes cs ascii.length codes firstCode { count := ascii.length }
  (if ascii.isEmpty then [] else ascii ++ ['-']) ++ s.digits

end CloudMetrics.Text.Punycode
