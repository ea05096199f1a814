import CloudMetrics.Decimal.Layout
import CloudMetrics.Json.Value
import CloudMetrics.Text.Hex

/-!
# Compact JSON text

No blanks between tokens. Strings escape the quote, the backslash and the characters below U+0020;
everything else stands as it is.
-/
namespace CloudMetrics.Json

open Text

/-- Doubles have a fraction, and an exponent from 10^16 on and below 10^-5. -/
def numbers : Decimal.Layout := ⟨true,true,some (-5,16)⟩

/-- One character inside a string. -/
def escapeChar (c : Char) : List Char :=
  if c = '"' then ['\\','"']
  else if c = '\\' then ['\\','\\']
  else if c = '\x08' then ['\\','b']
  else if c = '\x0c' then ['\\','f']
  else if c = '\n' then ['\\','n']
  else if c = '\r' then ['\\','r']
  else if c = '\t' then ['\\','t']
  else if c.toNat < 0x20 then ['\\','u','0','0',lowerHex (c.toNat/16),lowerHex (c.toNat%16)]
  else [c]

def writeString (cs : List Char) : List Char := '"' :: cs.flatMap escapeChar ++ ['"']

mutual
def writeList : Json → List Char
  | null => "null".toList
  | bool true => "true".toList
  | bool false => "false".toList
  | int n => (toString n).toList
  | float x => if x.isFinite then (numbers.write x).toList else "null".toList
  | string s => writeString s.toList
  | array items => '[' :: writeItems items
  | object members => '\x7b' :: writeMembers members
  | unreadable => "null".toList

/-- The items of a list and its end. -/
def writeItems : List Json → List Char
  | [] => [']']
  | [v] => writeList v ++ [']']
  | v :: w :: r => writeList v ++ ',' :: writeItems (w :: r)

/-- The members of an object and its end. -/
def writeMembers : List (String × Json) → List Char
  | [] => ['\x7d']
  | [(k,v)] => writeString k.toList ++ ':' :: writeList v ++ ['\x7d']
  | (k,v) :: m :: r => writeString k.toList ++ ':' :: writeList v ++ ',' :: writeMembers (m :: r)
end

def write (v : Json) : String := String.ofList v.writeList

end CloudMetrics.Json
