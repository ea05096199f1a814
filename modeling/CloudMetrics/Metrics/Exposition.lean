import CloudMetrics.Metrics.Sample

/-!
# Exposition text

Samples are grouped into families, one for each name, in ascending order of the names. A family has a
help line (unless its help is empty), a type line, and one line for each of its metrics: the name, the
labels, the value, and the time in milliseconds unless that is zero.
-/
namespace CloudMetrics.Metrics

open Time

inductive FamilyType where
  | gauge
  | counter
deriving DecidableEq, Repr

def FamilyType.text : FamilyType → String
  | .gauge => "gauge"
  | .counter => "counter"

/-- One line of a family. -/
structure Line where
  labels : List (String × String)
  value : Float
  millis : Int
deriving Repr

structure Family where
  name : String
  help : String
  kind : FamilyType
  lines : List Line
deriving Repr

def Sample.line (s : Sample) : Line := ⟨s.labels,s.value,(s.time.map Instant.millis).getD 0⟩

/-- Adds a sample to the family of its name; a new family takes the sample's help. -/
def addSample (s : Sample) : List Family → List Family
  | [] => [⟨s.name,s.help,.gauge,[s.line]⟩]
  | f :: fs =>
    if f.name = s.name then { f with lines := f.lines ++ [s.line] } :: fs
    else if s.name < f.name then ⟨s.name,s.help,.gauge,[s.line]⟩ :: f :: fs
    else f :: addSample s fs

/-- The families of some samples, by name. -/
def families (samples : List Sample) : List Family := samples.foldl (fun fs s => addSample s fs) []

/-- One character of a help text. -/
def escapeHelp (c : Char) : List Char :=
  if c = '\\' then ['\\','\\'] else if c = '\n' then ['\\','n'] else [c]

/-- One character of a label value. -/
def escapeValue (c : Char) : List Char :=
  if c = '"' then ['\\','"'] else escapeHelp c

def escapeWith (escape : Char → List Char) (s : String) : String := String.ofList (s.toList.flatMap escape)

def labelText (l : String × String) : String := l.1 ++ "=\"" ++ escapeWith escapeValue l.2 ++ "\""

def labelsText (ls : List (String × String)) : String :=
  if ls.isEmpty then "" else "\x7b" ++ String.intercalate "," (ls.map labelText) ++ "\x7d"

def Line.text (name : String) (l : Line) : String :=
  name ++ labelsText l.labels ++ " " ++ Decimal.text l.value
    ++ (if l.millis = 0 then "" else " " ++ toString l.millis) ++ "\n"

def Family.text (f : Family) : String :=
  (if f.help = "" then "" else "# HELP " ++ f.name ++ " " ++ escapeWith escapeHelp f.help ++ "\n")
    ++ "# TYPE " ++ f.name ++ " " ++ f.kind.text ++ "\n" ++ String.join (f.lines.map (Line.text f.name))

/-- Why no text can be written. -/
inductive ExpositionError where
  | familyWithoutName
deriving DecidableEq, Repr

def ExpositionError.message : ExpositionError → String
  | .familyWithoutName => "Error: MetricFamily has no name"

/-- The text of some families. -/
def writeFamilies (fs : List Family) : Except ExpositionError String :=
  if fs.any fun f => f.name == "" then .error .familyWithoutName
  else .ok (String.join (fs.map Family.text))

/-- The text of some samples and of further families after them. -/
def expose (samples : List Sample) (further : List Family) : Except ExpositionError String :=
  writeFamilies (families samples ++ further)

end CloudMetrics.Metrics
