import CloudMetrics.Config.Value
import CloudMetrics.Text.Hex
import CloudMetrics.Time.Calendar

/-!
# TOML documents

A document is lines of `key = value` under table headers. Keys may be dotted, a header in double
brackets opens one more table of an array, and no key or table is defined twice. Dates and times are
kept as text. Depth is bounded: a document with more than 79 lists and tables inside each other, or with
more than 79 parts in a key, is refused.
-/
namespace CloudMetrics.Config.Toml

open Text

def isSpace (c : Char) : Bool := c = ' ' || c = '\t'

/-- Characters of comments and literal strings. -/
def isPlain (c : Char) : Bool := c = '\t' || (0x20 ≤ c.toNat && c.toNat ≠ 0x7F)

def isBareKey (c : Char) : Bool := c.isAlphanum || c = '_' || c = '-'

def spaces : Scan Unit := discard (Scan.takeWhile isSpace)

/-- The end of a line, if the text goes on with one. -/
def newline? : Scan Bool := fun cs =>
  match cs with
  | '\n' :: r => some (true,r)
  | '\r' :: '\n' :: r => some (true,r)
  | _ => some (false,cs)

/-- A comment up to the end of its line. -/
def comment : Scan Unit := do
  if (← Scan.peek) = some '#' then
    let text ← Scan.takeWhile fun c => c ≠ '\n' && c ≠ '\r'
    Scan.guardWith (text.all isPlain)

/-- Blanks, a comment, and the end of the line or of the text. -/
def endOfLine : Scan Unit := do
  spaces
  comment
  if (← Scan.peek).isSome then Scan.guardWith (← newline?)

/-- Blanks, comments and line ends between the items of a list. -/
def gaps : Nat → Scan Unit
  | 0 => failure
  | fuel+1 => do
    spaces
    comment
    if ← newline? then gaps fuel

def hexDigits (count : Nat) : Scan Nat := fun cs =>
  let ds := cs.take count
  match ds.mapM hexValue? with
  | some vs => if vs.length = count then some (vs.foldl (fun n d => 16*n+d) 0,cs.drop count) else none
  | none => none

/-- The character with a number, if it is one. -/
def scalar (n : Nat) : Scan Char := if n.isValidChar then pure (Char.ofNat n) else failure

/-- What follows a backslash. -/
def escape : Scan Char := do
  match ← Scan.satisfy fun _ => true with
  | 'b' => return '\x08'
  | 't' => return '\t'
  | 'n' => return '\n'
  | 'f' => return '\x0c'
  | 'r' => return '\r'
  | '"' => return '"'
  | '\\' => return '\\'
  | 'u' => scalar (← hexDigits 4)
  | 'U' => scalar (← hexDigits 8)
  | _ => failure

/-- A string on one line, after its opening quote. -/
def basicRest : Nat → Scan (List Char)
  | 0 => failure
  | fuel+1 => do
    match ← Scan.satisfy isPlain with
    | '"' => return []
    | '\\' => do
      let c ← escape
      return c :: (← basicRest fuel)
    | c => return c :: (← basicRest fuel)

/-- A string without escapes on one line, after its opening quote. -/
def literalRest : Scan (List Char) := do
  let text ← Scan.takeWhile (· ≠ '\'')
  Scan.char '\''
  Scan.guardWith (text.all isPlain)
  return text

/-- The quotes at the front. -/
def countQuotes (q : Char) (cs : List Char) : Nat := (cs.takeWhile (· = q)).length

/-- After a backslash at the end of a line: all blanks and line ends up to the next character. -/
def skipFold : Nat → List Char → List Char
  | 0, cs => cs
  | _, [] => []
  | fuel+1, c :: r =>
    if isSpace c || c = '\n' then skipFold fuel r
    else if c = '\r' && r.head? = some '\n' then skipFold fuel (r.drop 1)
    else c :: r

/-- Whether only blanks stand before the end of the line. -/
def foldsLine (cs : List Char) : Bool :=
  match cs.dropWhile isSpace with
  | '\n' :: _ => true
  | '\r' :: '\n' :: _ => true
  | _ => false

/-- A string over several lines, after its opening quotes. Up to two quotes may stand anywhere in it,
before its closing quotes too. -/
def multilineRest (q : Char) (escapes : Bool) : Nat → Scan (List Char)
  | 0 => failure
  | fuel+1 => fun cs =>
    match cs with
    | [] => none
    | c :: r =>
      if c = q then
        let n := countQuotes q (c :: r)
        if 5 < n then none
        else if 3 ≤ n then some (List.replicate (n-3) q,(c :: r).drop n)
        else (multilineRest q escapes fuel ((c :: r).drop n)).map fun p => (List.replicate n q ++ p.1,p.2)
      else if escapes && c = '\\' then
        if foldsLine r then multilineRest q escapes fuel (skipFold r.length r)
        else (escape r).bind fun p => (multilineRest q escapes fuel p.2).map fun t => (p.1 :: t.1,t.2)
      else if c = '\n' || isPlain c then (multilineRest q escapes fuel r).map fun t => (c :: t.1,t.2)
      else if c = '\r' && r.head? = some '\n' then
        (multilineRest q escapes fuel (r.drop 1)).map fun t => ('\n' :: t.1,t.2)
      else none

def dropNewline : Scan Unit := discard newline?

/-- A string of any of the four forms. -/
def string : Scan String := fun cs =>
  let text : Scan (List Char) := match cs with
    | '"' :: '"' :: '"' :: _ => do
      let _ ← fun cs => some ((),cs.drop 3)
      dropNewline
      multilineRest '"' true (cs.length+1)
    | '\'' :: '\'' :: '\'' :: _ => do
      let _ ← fun cs => some ((),cs.drop 3)
      dropNewline
      multilineRest '\'' false (cs.length+1)
    | '"' :: _ => do
      Scan.char '"'
      basicRest (cs.length+1)
    | _ => do
      Scan.char '\''
      literalRest
  (text cs).map fun p => (String.ofList p.1,p.2)

/-- Digits with single underscores between them, without the underscores. -/
def grouped? (isDigit : Char → Bool) (cs : List Char) : Option (List Char) :=
  let parts := splitBy (· = '_') cs
  if parts.all fun p => !p.isEmpty && p.all isDigit then some parts.flatten else none

def inRange (n : Int) : Option Value :=
  if -9223372036854775808 ≤ n ∧ n ≤ 9223372036854775807 then some (.int n) else none

def cutSign (cs : List Char) : Bool × List Char :=
  match cs with
  | '-' :: r => (true,r)
  | '+' :: r => (false,r)
  | r => (false,r)

/-- A number in another base. -/
def based? (base : Nat) (isDigit : Char → Bool) (cs : List Char) : Option Value :=
  (grouped? isDigit cs).bind fun ds => inRange (ds.foldl (fun n c => base*n+(hexValue? c).getD 0) 0 : Nat)

/-- Digits of a whole part: no leading zero. -/
def whole? (cs : List Char) : Option (List Char) :=
  (grouped? Char.isDigit cs).bind fun ds => if 1 < ds.length ∧ ds.head? = some '0' then none else some ds

def decimal? (cs : List Char) : Option Value :=
  let (negative,r) := cutSign cs
  (whole? r).bind fun ds => inRange (if negative then -(numeral ds : Int) else numeral ds)

/-- A fraction after its point. -/
def fraction? (cs : List Char) : Option (List Char) := grouped? Char.isDigit cs

/-- A number with a fraction or an exponent. One above all doubles is refused; one below them is
negative infinity. -/
def float? (cs : List Char) : Option Value :=
  let (negative,r) := cutSign cs
  let sign (x : Float) : Value := .float (if negative then -x else x)
  if r = "inf".toList then some (sign Decimal.infinity)
  else if r = "nan".toList then some (sign Decimal.notANumber)
  else
    let isMark (c : Char) : Bool := c = 'e' || c = 'E'
    let front := r.takeWhile (!isMark ·)
    let exponent : Option (List Char) := match r.dropWhile (!isMark ·) with
      | [] => some []
      | _ :: e =>
        let (down,e) := cutSign e
        (grouped? Char.isDigit e).map fun ds => 'e' :: (if down then ['-'] else []) ++ ds
    let mantissa : Option (List Char) := match front.dropWhile (· ≠ '.') with
      | [] => if front.length = r.length then none else whole? front
      | _ :: f => (whole? (front.takeWhile (· ≠ '.'))).bind fun w => (fraction? f).map fun f => w ++ '.' :: f
    mantissa.bind fun m => exponent.bind fun e =>
      (Decimal.read? (String.ofList (m ++ e))).bind fun x =>
        if x.isInf && !negative then none else some (sign x)

/-- `00` up to a bound. -/
def twoDigits (low high : Nat) : Scan (List Char) := do
  let ds ← Scan.digits 2 2
  Scan.guardWith (low ≤ numeral ds && numeral ds ≤ high)
  return ds

def dateText : Scan (List Char) := do
  let year ← Scan.digits 4 4
  Scan.char '-'
  let month ← twoDigits 1 12
  Scan.char '-'
  let day ← twoDigits 1 (Time.daysInMonth (numeral year) (numeral month))
  return year ++ '-' :: month ++ '-' :: day

/-- Nine digits of a fraction count; zeros at their end are left out. -/
def timeText : Scan (List Char) := do
  let hour ← twoDigits 0 23
  Scan.char ':'
  let minute ← twoDigits 0 59
  Scan.char ':'
  let second ← twoDigits 0 60
  let fraction ← if (← Scan.peek) = some '.' then do
      Scan.char '.'
      let ds ← Scan.takeWhile Char.isDigit
      Scan.guardWith !ds.isEmpty
      let kept := ((ds.take 9).reverse.dropWhile (· = '0')).reverse
      pure (if kept.isEmpty then [] else '.' :: kept)
    else pure []
  return hour ++ ':' :: minute ++ ':' :: second ++ fraction

/-- The letter for no offset, or a sign, hours and minutes; an offset of nothing is positive. -/
def offsetText : Scan (List Char) := do
  match ← Scan.peek with
  | some 'Z' | some 'z' => let _ ← Scan.satisfy fun _ => true; return ['Z']
  | some '+' | some '-' =>
    let sign ← Scan.satisfy fun _ => true
    let hour ← twoDigits 0 23
    Scan.char ':'
    let minute ← twoDigits 0 59
    let sign := if numeral hour = 0 && numeral minute = 0 then '+' else sign
    return sign :: hour ++ ':' :: minute
  | _ => return []

def dateTimeText : Scan (List Char) := do
  let date ← dateText
  match ← Scan.peek with
  | none => return date
  | some _ =>
    let _ ← Scan.satisfy fun c => c = 'T' || c = 't' || c = ' '
    let time ← timeText
    return date ++ 'T' :: time ++ (← offsetText)

/-- A date, a time of day or both, as text. -/
def dateTime? (cs : List Char) : Option Value :=
  ((Scan.run? dateTimeText cs).orElse fun _ => Scan.run? timeText cs).map fun t => .text (String.ofList t)

/-- A value that is one word. -/
def word? (cs : List Char) : Option Value :=
  if cs = "true".toList then some (.bool true)
  else if cs = "false".toList then some (.bool false)
  else match cs with
    | '0' :: 'x' :: r => based? 16 (fun c => (hexValue? c).isSome) r
    | '0' :: 'o' :: r => based? 8 (fun c => '0' ≤ c && c ≤ '7') r
    | '0' :: 'b' :: r => based? 2 (fun c => c = '0' || c = '1') r
    | cs => (decimal? cs).orElse fun _ => (float? cs).orElse fun _ => dateTime? cs

def isWordChar (c : Char) : Bool := c.isAlphanum || c = '+' || c = '-' || c = '.' || c = '_' || c = ':'

/-- A word; a date and a time of day may have one blank between them. -/
def word : Scan Value := fun cs =>
  let front := cs.takeWhile isWordChar
  let rest := cs.dropWhile isWordChar
  let joined := match rest with
    | ' ' :: d :: r =>
      if (Scan.run? dateText front).isSome && d.isDigit then
        some (front ++ ' ' :: (d :: r).takeWhile isWordChar,(d :: r).dropWhile isWordChar)
      else none
    | _ => none
  let (text,rest) := joined.getD (front,rest)
  (word? text).map fun v => (v,rest)

/-- A table under construction. -/
inductive Node where
  | leaf (v : Value)
  /-- Opened by the path of a header only, or by a dotted key. -/
  | table (implicit dotted : Bool) (entries : List (String × Node))
  /-- Tables of one array; the last one is open. -/
  | tables (items : List Node)
deriving Inhabited

mutual
def Node.value : Node → Value
  | .leaf v => v
  | .table _ _ entries => .table (entryValues entries)
  | .tables items => .list (itemValues items)

def entryValues : List (String × Node) → List (String × Value)
  | [] => []
  | (k,n) :: r => (k,n.value) :: entryValues r

def itemValues : List Node → List Value
  | [] => []
  | n :: r => n.value :: itemValues r
end

/-- Follows a path of keys into a table and changes what it leads to. Tables on the way are opened; a
dotted key does not enter a table that a header has defined. -/
def Node.at (change : Node → Option Node) (dotted : Bool) : List String → Node → Option Node
  | [], n => change n
  | k :: ks, .table implicit d entries =>
    let inside : Node → Option Node
      | .table i d es => if dotted && !i then none else Node.at change dotted ks (.table i d es)
      | .tables items =>
        match items.getLast? with
        | some last => (Node.at change dotted ks last).map fun n => .tables (items.dropLast ++ [n])
        | none => none
      | .leaf _ => none
    (inside ((entries.lookup k).getD (.table true dotted []))).map fun n =>
      .table implicit d (Json.put k n entries)
  | _, _ => none

/-- A new entry of a table. -/
def Node.add (k : String) (v : Value) (viaDots : Bool) : Node → Option Node
  | .table implicit dotted entries =>
    if dotted != viaDots || (entries.lookup k).isSome then none
    else some (.table implicit dotted (entries ++ [(k,.leaf v)]))
  | _ => none

/-- Puts a value under a dotted key. -/
def Node.define (path : List String) (v : Value) (n : Node) : Option Node :=
  match path.getLast? with
  | none => none
  | some k => n.at (Node.add k v (1 < path.length)) true path.dropLast

/-- The header of a table. -/
def Node.openTable (path : List String) (n : Node) : Option Node :=
  match path.getLast? with
  | none => none
  | some k => n.at (fun
      | .table i d entries =>
        match entries.lookup k with
        | none => some (.table i d (entries ++ [(k,.table false false [])]))
        | some (.table true false es) => some (.table i d (Json.put k (.table false false es) entries))
        | some _ => none
      | _ => none) false path.dropLast

/-- The header of one more table of an array. -/
def Node.openItem (path : List String) (n : Node) : Option Node :=
  match path.getLast? with
  | none => none
  | some k => n.at (fun
      | .table i d entries =>
        match entries.lookup k with
        | none => some (.table i d (entries ++ [(k,.tables [.table false false []])]))
        | some (.tables items) => some (.table i d (Json.put k (.tables (items ++ [.table false false []])) entries))
        | some _ => none
      | _ => none) false path.dropLast

/-- Changes the table that a header has opened. -/
def Node.inOpen (change : Node → Option Node) : List String → Node → Option Node
  | [], .tables items =>
    match items.getLast? with
    | some last => (change last).map fun n => .tables (items.dropLast ++ [n])
    | none => none
  | [], n => change n
  | k :: ks, .table i d entries =>
    match entries.lookup k with
    | some n => (Node.inOpen change ks n).map fun n => .table i d (Json.put k n entries)
    | none => none
  | k :: ks, .tables items =>
    match items.getLast? with
    | some (.table i d entries) =>
      match entries.lookup k with
      | some n => (Node.inOpen change ks n).map fun n =>
          .tables (items.dropLast ++ [.table i d (Json.put k n entries)])
      | none => none
    | _ => none
  | _, _ => none

def keyPart : Scan String := do
  match ← Scan.peek with
  | some '"' => Scan.char '"'; fun cs => (basicRest (cs.length+1) cs).map fun p => (String.ofList p.1,p.2)
  | some '\'' => Scan.char '\''; return String.ofList (← literalRest)
  | _ =>
    let name ← Scan.takeWhile isBareKey
    Scan.guardWith !name.isEmpty
    return String.ofList name

/-- The most lists and tables that may stand inside each other, and the most parts of a key. -/
def maxDepth : Nat := 79

def keyParts : Nat → Scan (List String)
  | 0 => failure
  | fuel+1 => do
    spaces
    let k ← keyPart
    spaces
    if (← Scan.peek) = some '.' then
      Scan.char '.'
      return k :: (← keyParts fuel)
    else return [k]

/-- The parts of a dotted key. -/
def key (fuel : Nat) : Scan (List String) := do
  let parts ← keyParts fuel
  Scan.guardWith (parts.length ≤ maxDepth)
  return parts

mutual
/-- A value with room for some lists and tables inside each other. -/
def value : Nat → Nat → Scan Value
  | 0, _ => failure
  | fuel+1, room => do
    match ← Scan.peek with
    | some '"' | some '\'' => return .text (← string)
    | some '[' => Scan.guardWith (0 < room); Scan.char '['; return .list (← items fuel (room-1))
    | some '\x7b' =>
      Scan.guardWith (0 < room)
      Scan.char '\x7b'
      return (← inline fuel (room-1) true (.table false false [])).value
    | _ => word

/-- The items of a list, up to its end; a comma may follow the last one. -/
def items : Nat → Nat → Scan (List Value)
  | 0, _ => failure
  | fuel+1, room => do
    gaps fuel
    if (← Scan.peek) = some ']' then
      Scan.char ']'
      return []
    else
      let v ← value fuel room
      gaps fuel
      if (← Scan.peek) = some ',' then
        Scan.char ','
        return v :: (← items fuel room)
      else
        Scan.char ']'
        return [v]

/-- The entries of a table in braces, on one line and without a comma at the end. -/
def inline : Nat → Nat → Bool → Node → Scan Node
  | 0, _, _, _ => failure
  | fuel+1, room, first, n => do
    spaces
    if first && (← Scan.peek) = some '\x7d' then
      Scan.char '\x7d'
      return n
    else
      let path ← key fuel
      Scan.char '='
      spaces
      let v ← value fuel room
      spaces
      let some n := n.define path v | failure
      if (← Scan.peek) = some ',' then
        Scan.char ','
        inline fuel room false n
      else
        Scan.char '\x7d'
        return n
end

/-- A document so far: its tables, and the path of the table that is open. -/
structure Document where
  root : Node := .table false false []
  path : List String := []

/-- One line; a line may be empty. -/
def line (fuel : Nat) (d : Document) : Scan Document := do
  spaces
  match ← Scan.peek with
  | none | some '#' | some '\n' | some '\r' => endOfLine; return d
  | some '[' =>
    Scan.char '['
    if (← Scan.peek) = some '[' then
      Scan.char '['
      let path ← key fuel
      Scan.char ']'
      Scan.char ']'
      endOfLine
      let some root := d.root.openItem path | failure
      return ⟨root,path⟩
    else
      let path ← key fuel
      Scan.char ']'
      endOfLine
      let some root := d.root.openTable path | failure
      return ⟨root,path⟩
  | some _ =>
    let path ← key fuel
    Scan.char '='
    spaces
    let v ← value fuel maxDepth
    endOfLine
    let some root := d.root.inOpen (Node.define path v) d.path | failure
    return { d with root }

def lines : Nat → Document → List Char → Option Document
  | _, d, [] => some d
  | 0, _, _ => none
  | fuel+1, d, cs => (line (cs.length+1) d cs).bind fun p => lines fuel p.1 p.2

/-- The entries of a document. A byte order mark at its start is passed over. -/
def read? (s : String) : Option (List (String × Value)) :=
  let cs := match s.toList with
    | '\uFEFF' :: r => r
    | cs => cs
  (lines (cs.length+1) {} cs).map fun d => d.root.value.entries

end CloudMetrics.Config.Toml
