import CloudMetrics.Decimal.Layout
import CloudMetrics.Decimal.Reader
import CloudMetrics.Json.Value
import CloudMetrics.Text.Scan

/-!
# Settings values

Settings come from a file and from the environment as values of a few types. A setting takes a value
of another type when it can be converted. Layers are put over each other member by member; a name is a
path of members and indices, and its case does not matter.
-/
namespace CloudMetrics.Config

open Text

inductive Value where
  | absent
  | bool (b : Bool)
  | int (n : Int)
  | float (x : Float)
  | text (s : String)
  | list (items : List Value)
  | table (entries : List (String × Value))
deriving Inhabited, Repr

/-- A letter in lower case. Of the letters beyond ASCII only the Kelvin sign becomes an ASCII one. -/
def lowerChar (c : Char) : Char := if c.toNat = 0x212A then 'k' else c.toLower

def lower (s : String) : String := String.ofList (s.toList.map lowerChar)

/-- An integer of 64 bits: an optional sign and digits. -/
def readInt? (s : String) : Option Int :=
  let (negative,ds) := match s.toList with
    | '-' :: r => (true,r)
    | '+' :: r => (false,r)
    | r => (false,r)
  if ds.isEmpty || !ds.all Char.isDigit then none
  else
    let n : Int := if negative then -(numeral ds : Int) else numeral ds
    if -9223372036854775808 ≤ n ∧ n ≤ 9223372036854775807 then some n else none

def greatestNat : Nat := 18446744073709551615

/-- A natural number of 64 bits: an optional plus sign and digits. -/
def readNat? (s : String) : Option Nat :=
  let ds := match s.toList with
    | '+' :: r => r
    | r => r
  if ds.isEmpty || !ds.all Char.isDigit then none
  else if numeral ds ≤ greatestNat then some (numeral ds) else none

/-- The nearest natural number of 64 bits, halves up; the least one for a double that is none. -/
def natOfFloat (x : Float) : Nat :=
  if x.isNaN || x ≤ 0 then 0
  else if x.isInf then greatestNat
  else
    match Decimal.classify x with
    | (_,.finite d) =>
      let whole :=
        if 0 ≤ d.exponent then d.mantissa*Nat.pow 2 d.exponent.toNat
        else (2*d.mantissa+Nat.pow 2 (-d.exponent).toNat)/Nat.pow 2 ((-d.exponent).toNat+1)
      min whole greatestNat
    | _ => 0

namespace Value

def asText? : Value → Option String
  | .text s => some s
  | .bool b => some (toString b)
  | .int n => some (toString n)
  | .float x => some (Decimal.text x)
  | _ => none

def asNat? : Value → Option Nat
  | .int n => if 0 ≤ n then some n.toNat else none
  | .float x => some (natOfFloat x)
  | .bool b => some b.toNat
  | .text s =>
    let l := lower s
    if l = "true" ∨ l = "on" ∨ l = "yes" then some 1
    else if l = "false" ∨ l = "off" ∨ l = "no" then some 0
    else readNat? s
  | _ => none

def asBool? : Value → Option Bool
  | .bool b => some b
  | .int n => some (n ≠ 0)
  | .float x => some (x != 0)
  | .text s =>
    let l := lower s
    if l = "1" ∨ l = "true" ∨ l = "on" ∨ l = "yes" then some true
    else if l = "0" ∨ l = "false" ∨ l = "off" ∨ l = "no" then some false
    else none
  | _ => none

def asTexts? : Value → Option (List String)
  | .list items => items.mapM asText?
  | _ => none

def entries : Value → List (String × Value)
  | .table es => es
  | _ => []

/-- A member of a table. -/
def member? (name : String) (v : Value) : Option Value := v.entries.lookup name

inductive Key where
  | member (name : String)
  | index (i : Int)
deriving DecidableEq, Repr

/-- Characters of the name of a member; a blank is one of them. -/
def isNameChar (c : Char) : Bool := c.isAlphanum || c = '_' || c = '-' || c = ' '

def isGap (c : Char) : Bool := c = ' ' || c = '\t'

/-- An index: digits after an optional minus sign, with blanks around them. -/
def readIndex? (cs : List Char) : Option Int :=
  let digits := ((cs.dropWhile isGap).reverse.dropWhile isGap).reverse
  if digits.head? = some '+' then none else readInt? (String.ofList digits)

/-- The steps after the first name: members after points, numbers in square brackets. -/
def readSteps : Nat → List Char → Option (List Key)
  | _, [] => some []
  | 0, _ => none
  | fuel+1, '.' :: r =>
    let name := r.takeWhile isNameChar
    if name.isEmpty then none
    else (readSteps fuel (r.dropWhile isNameChar)).map (.member (String.ofList name) :: ·)
  | fuel+1, '[' :: r =>
    match readIndex? (r.takeWhile (· ≠ ']')), r.dropWhile (· ≠ ']') with
    | some i, _ :: r => (readSteps fuel r).map (.index i :: ·)
    | _, _ => none
  | _, _ => none

/-- The path that a name writes; a name that writes none is one member. -/
def readPath (s : String) : List Key :=
  let cs := s.toList
  let name := cs.takeWhile isNameChar
  if name.isEmpty then [.member s]
  else match readSteps cs.length (cs.dropWhile isNameChar) with
    | some ks => .member (String.ofList name) :: ks
    | none => [.member s]

/-- The place of an index in a list; negative ones count from the end. -/
def placeOf (i : Int) (size : Nat) : Nat := if i < 0 then (size+i).toNat else i.toNat

/-- A list with a value at a place; places before it are filled up. -/
def setAt (i : Nat) (v : Value) (items : List Value) : List Value :=
  (items ++ List.replicate (i+1-items.length) Value.absent).set i v

mutual
/-- Puts a value under a name. Tables are merged; anything else replaces what was there. -/
def putMember (root : Value) (name : String) : Value → Value
  | .table es =>
    let old := (root.member? (lower name)).getD (.table [])
    .table (Json.put (lower name) (mergeEntries old es) root.entries)
  | v => .table (Json.put (lower name) v root.entries)

/-- Puts every entry into a table. -/
def mergeEntries (target : Value) : List (String × Value) → Value
  | [] => .table target.entries
  | (k,v) :: r => mergeEntries (putMember target k v) r
end

/-- Puts a value at a path; what stands in the way is replaced. -/
def put (v : Value) : List Key → Value → Value
  | [], root => root
  | [.member name], root => putMember root name v
  | .member name :: ks, root =>
    let old := (root.member? (lower name)).getD (.table [])
    .table (Json.put (lower name) (put v ks old) root.entries)
  | .index i :: ks, root =>
    let items := match root with
      | .list items => items
      | _ => []
    let place := placeOf i items.length
    if ks.isEmpty then .list (setAt place v items)
    else .list (setAt place (put v ks ((items[place]?).getD .absent)) items)

/-- Puts a layer of named values over what is there. -/
def overlay (root : Value) (layer : List (String × Value)) : Value :=
  layer.foldl (fun acc e => put e.2 (readPath e.1) acc) root

end Value

end CloudMetrics.Config
