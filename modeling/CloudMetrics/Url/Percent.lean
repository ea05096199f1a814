import CloudMetrics.Text.Hex
import CloudMetrics.Text.Utf8

/-!
# Percent encoding

Bytes inside a URL: a byte that may not stand for itself is a percent sign and two hexadecimal
digits. In a form-encoded query a space is a plus sign, and only letters, digits and `*-._` stand
for themselves.
-/
namespace CloudMetrics.Url

open Text

def percentByte (b : UInt8) : List Char := ['%',upperHex (b.toNat/16),upperHex (b.toNat%16)]

/-- A character as it is, or its bytes percent encoded when the set holds it. -/
def percentChar (set : Char → Bool) (c : Char) : List Char :=
  if set c then (Utf8.encodeChar c).flatMap percentByte else [c]

def percentEncode (set : Char → Bool) (cs : List Char) : List Char := cs.flatMap (percentChar set)

/-- The bytes of a text whose percent escapes are undone; a percent sign that starts no escape stands
for itself. -/
def percentDecode : List Char → List UInt8
  | [] => []
  | '%' :: a :: b :: r =>
    match hexValue? a, hexValue? b with
    | some x, some y => UInt8.ofNat (16*x+y) :: percentDecode r
    | _, _ => 0x25 :: percentDecode (a :: b :: r)
  | c :: r => Utf8.encodeChar c ++ percentDecode r

def isControl (c : Char) : Bool := c.toNat < 0x20 || 0x7E < c.toNat

def inFragment (c : Char) : Bool := isControl c || c = ' ' || c = '"' || c = '<' || c = '>' || c = '\x60'

def inPath (c : Char) : Bool := inFragment c || c = '#' || c = '?' || c = '\x7b' || c = '\x7d'

def inUserinfo (c : Char) : Bool :=
  inPath c || c = '/' || c = ':' || c = ';' || c = '=' || c = '@' || c = '[' || c = '\\' || c = ']' ||
    c = '^' || c = '|'

def inQuery (special : Bool) (c : Char) : Bool :=
  isControl c || c = ' ' || c = '"' || c = '#' || c = '<' || c = '>' || (special && c = '\'')

def formKeeps (c : Char) : Bool := c.isAlphanum || c = '*' || c = '-' || c = '.' || c = '_'

def formByte (b : UInt8) : List Char :=
  if b = 0x20 then ['+'] else if b.toNat < 0x80 && formKeeps (Char.ofNat b.toNat) then [Char.ofNat b.toNat]
  else percentByte b

def formEncode (bytes : List UInt8) : List Char := bytes.flatMap formByte

/-- The bytes of a form-encoded text. -/
def formDecode (cs : List Char) : List UInt8 := percentDecode (cs.map fun c => if c = '+' then ' ' else c)

end CloudMetrics.Url
