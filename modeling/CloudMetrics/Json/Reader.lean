import CloudMetrics.Decimal.Reader
import CloudMetrics.Json.Value
import CloudMetrics.Text.Hex
import CloudMetrics.Text.Utf8

/-!
# Reading JSON

Bytes are cut into pieces, and the pieces are read to the end. There are two manners. The whole
document is kept when a generic value is wanted: each string and number must have a value, at most
127 lists and objects stand inside each other, and the last member of a name counts. A document that
is read for some of its members only may nest without bound, keeps every member, and may hold
`unreadable` values where nobody looks.

The digits of a number make a significand below 2^64; further ones only count. The significand
becomes a double first and is then multiplied or divided by a power of ten, each step rounded.
-/
namespace CloudMetrics.Json

open Text Utf8

inductive Manner where
  | whole
  | selective
deriving DecidableEq, Repr

/-- Why a text is no JSON. -/
inductive Cause where
  | endInList | endInObject | endInString | endInValue
  | expectedColon | expectedListEnd | expectedObjectEnd | expectedWord | expectedValue
  | invalidEscape | invalidNumber | numberOutOfRange | invalidText | controlCharacter
  | keyNotString | loneSurrogate | trailingComma | trailingCharacters | shortHexEscape | tooDeep
deriving DecidableEq, Repr

def Cause.text : Cause → String
  | .endInList => "EOF while parsing a list"
  | .endInObject => "EOF while parsing an object"
  | .endInString => "EOF while parsing a string"
  | .endInValue => "EOF while parsing a value"
  | .expectedColon => "expected \x60:\x60"
  | .expectedListEnd => "expected \x60,\x60 or \x60]\x60"
  | .expectedObjectEnd => "expected \x60,\x60 or \x60\x7d\x60"
  | .expectedWord => "expected ident"
  | .expectedValue => "expected value"
  | .invalidEscape => "invalid escape"
  | .invalidNumber => "invalid number"
  | .numberOutOfRange => "number out of range"
  | .invalidText => "invalid unicode code point"
  | .controlCharacter => "control character (\\u0000-\\u001F) found while parsing a string"
  | .keyNotString => "key must be a string"
  | .loneSurrogate => "lone leading surrogate in hex escape"
  | .trailingComma => "trailing comma"
  | .trailingCharacters => "trailing characters"
  | .shortHexEscape => "unexpected end of hex escape"
  | .tooDeep => "recursion limit exceeded"

/-- A cause and its place: the number of bytes that follow it. -/
structure Fault where
  cause : Cause
  left : Nat
deriving DecidableEq, Repr

/-- The line of a fault and its column, both from 1; columns count bytes. -/
def Fault.place (f : Fault) (bytes : List UInt8) : Nat × Nat :=
  let before := bytes.take (bytes.length-f.left)
  (1+before.count 0x0A,(before.reverse.takeWhile (· ≠ 0x0A)).length)

def Fault.message (f : Fault) (bytes : List UInt8) : String :=
  let (line,column) := f.place bytes
  s!"{f.cause.text} at line {line} column {column}"

def size (ps : List Piece) : Nat := ps.foldl (fun n p => n+p.size) 0

/-- A fault at the front of what is left. -/
def Fault.before (c : Cause) (ps : List Piece) : Fault := ⟨c,size ps⟩

/-- A fault just behind the first byte of what is left. -/
def Fault.behind (c : Cause) (ps : List Piece) : Fault := ⟨c,size ps-1⟩

/-- What was read, and the pieces that are left. -/
abbrev Taken (α : Type) := α × List Piece

def isGap : Piece → Bool
  | .scalar c => c = ' ' || c = '\n' || c = '\t' || c = '\r'
  | .stray _ => false

def skipGaps (ps : List Piece) : List Piece := ps.dropWhile isGap

/-- The rest of `null`, `true` or `false`. -/
def readWord (v : Json) : List Char → List Piece → Except Fault (Taken Json)
  | [], ps => .ok (v,ps)
  | _ :: _, [] => .error (.before .endInValue [])
  | c :: cs, p :: ps =>
    if p = .scalar c then readWord v cs ps else .error (.behind .expectedWord (p :: ps))

/-- The four digits of a hexadecimal escape. -/
def readHex (ps : List Piece) : Except Fault (Taken Nat) :=
  if size (ps.take 4) < 4 then .error (.before .endInString [])
  else
    match (ps.take 4).mapM fun p => p.char?.bind hexValue? with
    | some [a,b,c,d] => .ok (a*4096+b*256+c*16+d,ps.drop 4)
    | _ => .error ⟨.invalidEscape,size ps-4⟩

def isLeading (n : Nat) : Bool := 0xD800 ≤ n && n ≤ 0xDBFF

def isTrailing (n : Nat) : Bool := 0xDC00 ≤ n && n ≤ 0xDFFF

/-- The unit after a leading surrogate, written as an escape of its own. -/
def readTrailing (ps : List Piece) : Except Fault (Taken Nat) :=
  match ps with
  | [] => .error (.before .endInString [])
  | p :: r =>
    if p = .scalar '\\' then
      match r with
      | [] => .error (.before .endInString [])
      | q :: r₂ =>
        if q = .scalar 'u' then do
          let (n,rest) ← readHex r₂
          if isTrailing n then .ok (n,rest) else .error (.before .loneSurrogate rest)
        else .error (.behind .shortHexEscape r)
    else .error (.behind .shortHexEscape ps)

/-- The character of a hexadecimal escape after its `u`; none is a surrogate alone, which the whole
manner refuses. -/
def readUnit (m : Manner) (ps : List Piece) : Except Fault (Taken (Option Char)) := do
  let (n,rest) ← readHex ps
  if isTrailing n then
    if m = .whole then .error (.before .loneSurrogate rest) else .ok (none,rest)
  else if isLeading n then
    match readTrailing rest with
    | .ok (k,rest₂) => .ok (some (Char.ofNat (0x10000+(n-0xD800)*1024+(k-0xDC00))),rest₂)
    | .error f => if m = .whole then .error f else .ok (none,rest)
  else .ok (some (Char.ofNat n),rest)

/-- What follows a backslash. -/
def readEscape (m : Manner) : List Piece → Except Fault (Taken (Option Char))
  | [] => .error (.before .endInString [])
  | .scalar 'u' :: r => readUnit m r
  | .scalar '"' :: r => .ok (some '"',r)
  | .scalar '\\' :: r => .ok (some '\\',r)
  | .scalar '/' :: r => .ok (some '/',r)
  | .scalar 'b' :: r => .ok (some '\x08',r)
  | .scalar 'f' :: r => .ok (some '\x0c',r)
  | .scalar 'n' :: r => .ok (some '\n',r)
  | .scalar 'r' :: r => .ok (some '\r',r)
  | .scalar 't' :: r => .ok (some '\t',r)
  | p :: r => .error (.behind .invalidEscape (p :: r))

/-- The characters up to the closing quote; none in place of each that is no character. -/
def readChars (m : Manner) : Nat → List Piece → Except Fault (Taken (List (Option Char)))
  | 0, _ => .error (.before .endInString [])
  | _, [] => .error (.before .endInString [])
  | fuel+1, .scalar c :: r =>
    if c = '"' then .ok ([],r)
    else if c = '\\' then do
      let (a,r₂) ← readEscape m r
      let (as,r₃) ← readChars m fuel r₂
      .ok (a :: as,r₃)
    else if c.toNat < 0x20 then .error (.behind .controlCharacter (.scalar c :: r))
    else do
      let (as,r₂) ← readChars m fuel r
      .ok (some c :: as,r₂)
  | fuel+1, .stray _ :: r => do
    let (as,r₂) ← readChars m fuel r
    .ok (none :: as,r₂)

/-- A string after its opening quote; none if it is no text. -/
def readString (m : Manner) (ps : List Piece) : Except Fault (Taken (Option String)) := do
  let (cs,rest) ← readChars m (ps.length+1) ps
  match cs.mapM id with
  | some cs => .ok (some (String.ofList cs),rest)
  | none => if m = .whole then .error (.before .invalidText rest) else .ok (none,rest)

def isDigitPiece : Piece → Bool
  | .scalar c => c.isDigit
  | .stray _ => false

def spanDigits (ps : List Piece) : List Nat × List Piece :=
  ((ps.takeWhile isDigitPiece).filterMap fun p => p.char?.map fun c => c.toNat-48,
    ps.dropWhile isDigitPiece)

/-- Takes digits into a significand while it stays below 2^64; the count of those left over. -/
def absorb : Nat → List Nat → Nat × Nat
  | s, [] => (s,0)
  | s, d :: ds => if 10*s+d < Nat.pow 2 64 then absorb (10*s+d) ds else (s,ds.length+1)

def greatestExponent : Int := 2147483647

def clampExponent (e : Int) : Int := max (-greatestExponent-1) (min e greatestExponent)

/-- A double divided by powers of ten up to 10^308. -/
def shrink : Nat → Float → Nat → Float
  | 0, f, _ => f
  | fuel+1, f, e =>
    if e ≤ 308 then f/Float.ofScientific 1 false e
    else if f == 0 then f
    else shrink fuel (f/Float.ofScientific 1 false 308) (e-308)

/-- The double of a significand and an exponent, unless it is too large. -/
def scaled? (significand : Nat) (e : Int) : Option Float :=
  let f := Float.ofNat significand
  if e < 0 then some (shrink 8 f (-e).toNat)
  else if e ≤ 308 then
    let g := f*Float.ofScientific 1 false e.toNat
    if g.isInf then none else some g
  else if f == 0 then some f
  else none

/-- An unsigned exponent: its digits are read while it stays below 2^31. -/
def readExponentDigits : Nat → List Piece → Option Nat × List Piece
  | e, [] => (some e,[])
  | e, p :: r =>
    if isDigitPiece p then
      let e₂ := 10*e+((p.char?.getD '0').toNat-48)
      if (e₂ : Int) ≤ greatestExponent then readExponentDigits e₂ r else (none,r)
    else (some e,p :: r)

/-- A number's sign and the double it makes; what is too large has no value. -/
def finish (m : Manner) (negative : Bool) (value : Option Float) (rest : List Piece) : Except Fault (Taken Json) :=
  match value with
  | some f => .ok (float (if negative then -f else f),rest)
  | none => if m = .whole then .error (.before .numberOutOfRange rest) else .ok (unreadable,rest)

/-- What follows the `e` of a number. -/
def readExponent (m : Manner) (negative : Bool) (significand : Nat) (start : Int) (ps : List Piece) :
    Except Fault (Taken Json) :=
  let (down,ps) := match ps with
    | .scalar '+' :: r => (false,r)
    | .scalar '-' :: r => (true,r)
    | r => (false,r)
  match ps with
  | [] => .error (.before .endInValue [])
  | p :: r =>
    if isDigitPiece p then
      match readExponentDigits 0 (p :: r) with
      | (some e,rest) =>
        finish m negative (scaled? significand (clampExponent (if down then start-e else start+e))) rest
      | (none,rest) =>
        if significand ≠ 0 ∧ !down then finish m negative none
          (if m = .whole then rest else rest.dropWhile isDigitPiece)
        else finish m negative (some 0) (rest.dropWhile isDigitPiece)
    else .error (.behind .invalidNumber (p :: r))

def startsExponent (ps : List Piece) : Bool := ps.head? = some (.scalar 'e') || ps.head? = some (.scalar 'E')

/-- What follows the whole part of a number; `extra` digits of it were not absorbed. -/
def readTail (m : Manner) (negative : Bool) (significand extra : Nat) (ps : List Piece) : Except Fault (Taken Json) :=
  match ps with
  | .scalar '.' :: r =>
    let (ds,rest) := spanDigits r
    if ds.isEmpty then .error (.behind (if rest.isEmpty then .endInValue else .invalidNumber) rest)
    else
      let (significand,left) := absorb significand ds
      let e : Int := (extra : Int)-(ds.length-left : Nat)
      if startsExponent rest then readExponent m negative significand e (rest.drop 1)
      else finish m negative (scaled? significand e) rest
  | rest =>
    if startsExponent rest then readExponent m negative significand extra (rest.drop 1)
    else if 0 < extra then finish m negative (scaled? significand extra) rest
    else if negative then
      if 0 < significand ∧ significand ≤ Nat.pow 2 63 then .ok (int (-significand),rest)
      else .ok (float (-(Float.ofNat significand)),rest)
    else .ok (int significand,rest)

/-- A number after its sign. -/
def readNumber (m : Manner) (negative : Bool) (ps : List Piece) : Except Fault (Taken Json) :=
  match ps with
  | [] => .error (.before .endInValue [])
  | p :: r =>
    if p = .scalar '0' then
      if (r.head?.map isDigitPiece).getD false then .error (.behind .invalidNumber r)
      else readTail m negative 0 0 r
    else if isDigitPiece p then
      let (ds,rest) := spanDigits ps
      let (significand,extra) := absorb 0 ds
      readTail m negative significand extra rest
    else .error (.behind .invalidNumber ps)

/-- How many more lists and objects may be opened. -/
abbrev Depth := Option Nat

def Depth.enter : Depth → Option Depth
  | none => some none
  | some 0 => none
  | some (n+1) => some (some n)

def Manner.depth : Manner → Depth
  | .whole => some 127
  | .selective => none

/-- The object of some members; none stands for a key that is no text. -/
def ofMembers (m : Manner) (members : List (Option String × Json)) : Json :=
  match members.mapM fun e => e.1.map fun k => (k,e.2) with
  | none => unreadable
  | some members => object (if m = .whole then lastOfEach members else members)

mutual
def readValue (m : Manner) : Nat → Depth → List Piece → Except Fault (Taken Json)
  | 0, _, ps => .error (.before .tooDeep ps)
  | fuel+1, depth, ps =>
    let ps := skipGaps ps
    match ps with
    | [] => .error (.before .endInValue [])
    | .scalar '"' :: r => do
      let (s,rest) ← readString m r
      .ok ((s.map string).getD unreadable,rest)
    | .scalar '[' :: r =>
      match depth.enter with
      | none => .error (.behind .tooDeep ps)
      | some depth => do
        let (vs,rest) ← readItems m fuel depth true r
        .ok (array vs,rest)
    | .scalar '\x7b' :: r =>
      match depth.enter with
      | none => .error (.behind .tooDeep ps)
      | some depth => do
        let (ms,rest) ← readMembers m fuel depth true r
        .ok (ofMembers m ms,rest)
    | .scalar 'n' :: r => readWord null "ull".toList r
    | .scalar 't' :: r => readWord (bool true) "rue".toList r
    | .scalar 'f' :: r => readWord (bool false) "alse".toList r
    | .scalar '-' :: r => readNumber m true r
    | p :: r =>
      if isDigitPiece p then readNumber m false (p :: r) else .error (.behind .expectedValue (p :: r))

/-- The items after `[` or after another item, up to `]`. -/
def readItems (m : Manner) : Nat → Depth → Bool → List Piece → Except Fault (Taken (List Json))
  | 0, _, _, ps => .error (.before .tooDeep ps)
  | fuel+1, depth, first, ps =>
    match skipGaps ps with
    | [] => .error (.before .endInList [])
    | .scalar ']' :: r => .ok ([],r)
    | p :: r =>
      if first then do
        let (v,rest) ← readValue m fuel depth (p :: r)
        let (vs,rest) ← readItems m fuel depth false rest
        .ok (v :: vs,rest)
      else if p = .scalar ',' then
        match skipGaps r with
        | [] => .error (.before .endInValue [])
        | .scalar ']' :: r₂ => .error (.behind .trailingComma (.scalar ']' :: r₂))
        | r₂ => do
          let (v,rest) ← readValue m fuel depth r₂
          let (vs,rest) ← readItems m fuel depth false rest
          .ok (v :: vs,rest)
      else .error (.behind .expectedListEnd (p :: r))

/-- The members after the opening brace or after another member, up to the closing one. -/
def readMembers (m : Manner) : Nat → Depth → Bool → List Piece → Except Fault (Taken (List (Option String × Json)))
  | 0, _, _, ps => .error (.before .tooDeep ps)
  | fuel+1, depth, first, ps =>
    match skipGaps ps with
    | [] => .error (.before .endInObject [])
    | .scalar '\x7d' :: r => .ok ([],r)
    | p :: r =>
      if first then
        if p = .scalar '"' then do
          let (e,rest) ← readMember m fuel depth r
          let (es,rest) ← readMembers m fuel depth false rest
          .ok (e :: es,rest)
        else .error (.behind .keyNotString (p :: r))
      else if p = .scalar ',' then
        match skipGaps r with
        | [] => .error (.before .endInValue [])
        | .scalar '"' :: r₂ => do
          let (e,rest) ← readMember m fuel depth r₂
          let (es,rest) ← readMembers m fuel depth false rest
          .ok (e :: es,rest)
        | .scalar '\x7d' :: r₂ => .error (.behind .trailingComma (.scalar '\x7d' :: r₂))
        | r₂ => .error (.behind .keyNotString r₂)
      else .error (.behind .expectedObjectEnd (p :: r))

/-- A key after its opening quote, and its value. -/
def readMember (m : Manner) : Nat → Depth → List Piece → Except Fault (Taken (Option String × Json))
  | 0, _, ps => .error (.before .tooDeep ps)
  | fuel+1, depth, ps => do
    let (k,rest) ← readString m ps
    match skipGaps rest with
    | [] => .error (.before .endInObject [])
    | .scalar ':' :: r => do
      let (v,rest) ← readValue m fuel depth r
      .ok ((k,v),rest)
    | r => .error (.behind .expectedColon r)
end

/-- A value and nothing after it. -/
def readPieces (m : Manner) (ps : List Piece) : Except Fault Json := do
  let (v,rest) ← readValue m (3*ps.length+3) m.depth ps
  match skipGaps rest with
  | [] => .ok v
  | r => .error (.behind .trailingCharacters r)

def read (m : Manner) (bytes : List UInt8) : Except Fault Json := readPieces m (pieces bytes)

end CloudMetrics.Json
