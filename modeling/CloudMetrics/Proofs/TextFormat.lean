import CloudMetrics.Metrics.Exposition

/-!
# The text format of exposed metrics

A page consists of lines, and each line ends with a line feed. Blanks stand between words and are ignored
at both ends of a line; empty lines and comments are ignored too. A comment whose first word is `HELP` or
`TYPE` tells the help or the kind of a metric, at most once and before its samples. All other lines are
samples: a name, labels in braces, a number, and a time in milliseconds. The lines of one name stand
together. The reader here knows nothing of how pages are written.
-/
namespace CloudMetrics.Metrics.TextFormat

/-- The line of a sample; its value is kept as it was printed. -/
structure Reading where
  labels : List (String × String)
  value : String
  millis : Option Int := none
deriving DecidableEq, Repr

inductive Entry where
  | help (name text : String)
  | type (name kind : String)
  | sample (name : String) (reading : Reading)
deriving DecidableEq, Repr

def Entry.name : Entry → String
  | .help name _ | .type name _ | .sample name _ => name

/-- All that a page says of one name. -/
structure Group where
  name : String
  help : Option String := none
  kind : Option String := none
  readings : List Reading := []
deriving DecidableEq, Repr

def isBlank (c : Char) : Bool := c == ' ' || c == '\t'

def trimBlanks (cs : List Char) : List Char :=
  ((cs.dropWhile isBlank).reverse.dropWhile isBlank).reverse

/-- The first word, and what follows it. -/
def nextWord (cs : List Char) : List Char × List Char :=
  let cs := cs.dropWhile isBlank
  (cs.takeWhile (!isBlank ·),cs.dropWhile (!isBlank ·))

def isName : List Char → Bool
  | [] => false
  | c :: cs => (c.isAlpha || c == '_' || c == ':') && cs.all fun c => c.isAlphanum || c == '_' || c == ':'

def isLabelName : List Char → Bool
  | [] => false
  | c :: cs => (c.isAlpha || c == '_') && cs.all fun c => c.isAlphanum || c == '_'

def dropSign : List Char → List Char
  | [] => []
  | c :: cs => if c == '-' || c == '+' then cs else c :: cs

def isDigits (cs : List Char) : Bool := !cs.isEmpty && cs.all Char.isDigit

/-- Digits with at most one point among them. -/
def isMantissa (cs : List Char) : Bool :=
  match cs.dropWhile Char.isDigit with
  | [] => !cs.isEmpty
  | point :: fraction => point == '.' && fraction.all Char.isDigit && 1 < cs.length

def isExponent : List Char → Bool
  | [] => true
  | _ :: cs => isDigits (dropSign cs)

def isDecimal (cs : List Char) : Bool :=
  let beforeExponent (c : Char) : Bool := c != 'e' && c != 'E'
  isMantissa (cs.takeWhile beforeExponent) && isExponent (cs.dropWhile beforeExponent)

/-- A decimal, or one of the words for what no decimal stands for. -/
def isNumber (cs : List Char) : Bool :=
  ["nan","inf","infinity"].contains (String.ofList ((dropSign cs).map Char.toLower))
    || isDecimal (dropSign cs)

def readInt? (cs : List Char) : Option Int :=
  if isDigits (dropSign cs) then
    let n : Int := Nat.ofDigitChars 10 (dropSign cs) 0
    some (if cs.head? = some '-' then -n else n)
  else none

def helpEscape? (c : Char) : Option Char :=
  if c = '\\' then some '\\' else if c = 'n' then some '\n' else none

def valueEscape? (c : Char) : Option Char := if c = '"' then some '"' else helpEscape? c

/-- The text of a help. -/
def unescapeHelp : Bool → List Char → Option (List Char)
  | false, [] => some []
  | true, [] => none
  | false, c :: cs => if c = '\\' then unescapeHelp true cs else (unescapeHelp false cs).map (c :: ·)
  | true, c :: cs => (helpEscape? c).bind fun d => (unescapeHelp false cs).map (d :: ·)

inductive Token where
  | word (cs : List Char)
  | quoted (cs : List Char)
  | mark (c : Char)
deriving DecidableEq, Repr

def isMark (c : Char) : Bool := c == '\x7b' || c == '\x7d' || c == '=' || c == ','

/-- What has been read of a token. -/
inductive Partial where
  | word (cs : List Char)
  | quoted (cs : List Char)
  /-- The backslash of an escape has been read too. -/
  | escaped (cs : List Char)

/-- The word that has been read, if there is one. -/
def wordToken (cs : List Char) : List Token := if cs.isEmpty then [] else [.word cs]

/-- The tokens of a line. -/
def tokens : Partial → List Char → Option (List Token)
  | .word w, [] => some (wordToken w)
  | .quoted _, [] | .escaped _, [] => none
  | .word w, c :: cs =>
    if isBlank c then (tokens (.word []) cs).map (wordToken w ++ ·)
    else if c = '"' then (tokens (.quoted []) cs).map (wordToken w ++ ·)
    else if isMark c then (tokens (.word []) cs).map fun ts => wordToken w ++ .mark c :: ts
    else tokens (.word (w ++ [c])) cs
  | .quoted v, c :: cs =>
    if c = '"' then (tokens (.word []) cs).map (.quoted v :: ·)
    else if c = '\\' then tokens (.escaped v) cs
    else tokens (.quoted (v ++ [c])) cs
  | .escaped v, c :: cs => (valueEscape? c).bind fun d => tokens (.quoted (v ++ [d])) cs

/-- The labels up to the closing brace, and what follows it. There may be a comma after the last label. -/
def readLabels : List Token → Option (List (String × String) × List Token)
  | .mark '\x7d' :: ts => some ([],ts)
  | .word l :: .mark '=' :: .quoted v :: .mark '\x7d' :: ts =>
    if isLabelName l then some ([(String.ofList l,String.ofList v)],ts) else none
  | .word l :: .mark '=' :: .quoted v :: .mark ',' :: ts =>
    if isLabelName l then
      (readLabels ts).map fun r => ((String.ofList l,String.ofList v) :: r.1,r.2)
    else none
  | _ => none

/-- What follows the labels of a sample. -/
def readValue (labels : List (String × String)) : List Token → Option Reading
  | [.word value] => if isNumber value then some ⟨labels,String.ofList value,none⟩ else none
  | [.word value,.word time] =>
    if isNumber value then (readInt? time).map fun t => ⟨labels,String.ofList value,some t⟩ else none
  | _ => none

def readSample : List Token → Option Entry
  | .word name :: ts =>
    if isName name then
      let reading := match ts with
        | .mark '\x7b' :: ts => (readLabels ts).bind fun r => readValue r.1 r.2
        | ts => readValue [] ts
      reading.map (.sample (String.ofList name))
    else none
  | _ => none

def kinds : List String := ["counter","gauge","histogram","summary","untyped"]

/-- A comment, after its number sign. -/
def readComment (cs : List Char) : Option (Option Entry) :=
  let (keyword,rest) := nextWord cs
  let (name,rest) := nextWord rest
  if keyword = ['H','E','L','P'] then
    if isName name then
      (unescapeHelp false rest).map fun text =>
        some (.help (String.ofList name) (String.ofList (trimBlanks text)))
    else none
  else if keyword = ['T','Y','P','E'] then
    let (kind,rest) := nextWord rest
    if isName name && kinds.contains (String.ofList kind) && rest.all isBlank then
      some (some (.type (String.ofList name) (String.ofList kind)))
    else none
  else some none

/-- An entry, or nothing for a line that is ignored. -/
def readLine (cs : List Char) : Option (Option Entry) :=
  match cs.dropWhile isBlank with
  | [] => some none
  | c :: cs => if c = '#' then readComment cs else ((tokens (.word []) (c :: cs)).bind readSample).map some

/-- The lines without their ends. -/
def lines? : List Char → Option (List (List Char))
  | [] => some []
  | c :: cs =>
    if c = '\n' then (lines? cs).map ([] :: ·)
    else match lines? cs with
      | some (l :: ls) => some ((c :: l) :: ls)
      | _ => none

/-- There is one help and one kind, and both stand before the samples. -/
def Group.add? (g : Group) : Entry → Option Group
  | .help _ text => if g.help.isSome || !g.readings.isEmpty then none else some { g with help := some text }
  | .type _ kind => if g.kind.isSome || !g.readings.isEmpty then none else some { g with kind := some kind }
  | .sample _ r => some { g with readings := g.readings ++ [r] }

/-- Adds an entry to the latest group, which stands first, or begins a group. No group is taken up again. -/
def addEntry (gs : List Group) (e : Entry) : Option (List Group) :=
  let begin (gs : List Group) : Option (List Group) := (Group.add? { name := e.name } e).map (· :: gs)
  match gs with
  | [] => begin []
  | g :: gs =>
    if g.name = e.name then (g.add? e).map (· :: gs)
    else if gs.any fun g => g.name == e.name then none
    else begin (g :: gs)

/-- The groups of a page in their order, if it is written in the format. -/
def readPage (text : String) : Option (List Group) := do
  let lines ← lines? text.toList
  let entries ← lines.mapM readLine
  let groups ← (entries.filterMap id).foldlM addEntry []
  return groups.reverse

example : readPage "# HELP a  1\\n2 \n# note\n\n a \x7b b = \"\\\"\" , \x7d 1e+3\n# TYPE c gauge\nc -Inf -5\n" =
    some [⟨"a",some "1\n2",none,[⟨[("b","\"")],"1e+3",none⟩]⟩,
      ⟨"c",none,some "gauge",[⟨[],"-Inf",some (-5)⟩]⟩] := by
  decide +kernel

end CloudMetrics.Metrics.TextFormat
