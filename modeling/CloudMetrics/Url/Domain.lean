import CloudMetrics.Text.Direction
import CloudMetrics.Text.Joining
import CloudMetrics.Text.Normal
import CloudMetrics.Text.Punycode
import CloudMetrics.Text.Scan
import CloudMetrics.Url.Mapping

/-!
# Domains

A domain is labels with points between. Every spelling of a domain has one written form in ASCII: its
characters are respelled and composed, and a label with other characters is written in Punycode behind
`xn--`. A label that comes in Punycode must be what a respelled and composed one is written as.
-/
namespace CloudMetrics.Url

open Text Text.Punycode

def isForbiddenInHost (c : Char) : Bool :=
  c.toNat = 0 || c = '\t' || c = '\n' || c = '\r' || c = ' ' || c = '#' || c = '/' || c = ':' || c = '<' ||
    c = '>' || c = '?' || c = '@' || c = '[' || c = '\\' || c = ']' || c = '^' || c = '|'

def isForbiddenInDomain (c : Char) : Bool :=
  isForbiddenInHost c || c.toNat < 0x20 || c.toNat = 0x7F || c = '%'

/-- The characters of a text respelled, and the whole composed. -/
def respell? (cs : List Char) : Option (List Char) :=
  (cs.mapM spelling?).map fun spellings => compose spellings.flatten

/-- A label as it is read, and as it is written. -/
structure Label where
  text : List Char
  ascii : List Char
deriving DecidableEq, Repr

namespace Label

/-- Stands before a label in Punycode. -/
def mark : List Char := "xn--".toList

def nonJoiner : Char := '\u200C'

def joiner : Char := '\u200D'

/-- Whether a joiner may stand behind some characters, the nearest first, and before others: behind a
sign that suppresses a vowel. The non-joiner may also part letters that would be joined. -/
def joinerFits (before : List Char) (c : Char) (after : List Char) : Bool :=
  match before with
  | [] => false
  | b :: _ =>
    let l := firstJoining before
    let r := firstJoining after
    isVowelKiller b ||
      (c = nonJoiner && (l = .left || l = .both) && (r = .right || r = .both))

def joinersFit : List Char → List Char → Bool
  | _, [] => true
  | before, c :: r =>
    (if c = nonJoiner || c = joiner then joinerFits before c r else true) && joinersFit (c :: before) r

/-- The most characters of a label that is written in Punycode, and of one that comes in it. -/
def maxWritten : Nat := 1000

def maxCode : Nat := 2000

def isWellFormed (text : List Char) : Bool :=
  !text.head?.any isMark && joinersFit [] text && (text.all isAscii || text.length ≤ maxWritten)

/-- The text that a label in Punycode is written for. -/
def decode? (code : List Char) : Option (List Char) :=
  if !code.all isAscii || code.isEmpty || code.getLast? = some '-' || maxCode < code.length then none
  else (Punycode.decode? code).bind fun text => if respell? text = some text then some text else none

/-- The label of a respelled text. -/
def read? (cs : List Char) : Option Label :=
  if cs.any isForbiddenInDomain then none
  else if mark.isPrefixOf cs then
    (decode? (cs.drop mark.length)).bind fun text => if isWellFormed text then some ⟨text,cs⟩ else none
  else if isWellFormed cs then some ⟨cs,if cs.all isAscii then cs else mark ++ encode cs⟩
  else none

/-- Characters inside a label of either direction. -/
def isInner (d : Direction) : Bool :=
  match d with
  | .europeanNumber | .europeanSeparator | .europeanTerminator | .commonSeparator
  | .nonspacingMark | .boundaryNeutral | .otherNeutral => true
  | _ => false

def fromLeft (last : Direction) (inner : List Direction) : Bool :=
  (last = .left || last = .europeanNumber) && inner.all fun d => d = .left || isInner d

def fromRight (last : Direction) (inner : List Direction) : Bool :=
  (last = .europeanNumber || last.isFromRight) && inner.all (fun d => d.isFromRight || isInner d) &&
    !((last :: inner).contains .europeanNumber && (last :: inner).contains .arabicNumber)

/-- Whether a label is read in one direction: that of the letter it starts with. Marks at its end do not
count. -/
def isOneWay (text : List Char) : Bool :=
  match text.map direction with
  | [] => true
  | first :: r =>
    let fits := match first with
      | .left => fromLeft
      | .right | .arabicLetter => fromRight
      | _ => fun _ _ => false
    match r.reverse.dropWhile (· = .nonspacingMark) with
    | last :: inner => fits last inner
    | [] => first = .left || first = .right || first = .arabicLetter

end Label

def labels? (cs : List Char) : Option (List Label) :=
  (respell? cs).bind fun text => (splitBy (· = '.') text).mapM Label.read?

/-- The written form of a domain. With a character from the right anywhere in it, each of its labels is
read in one direction. -/
def domainName? (cs : List Char) : Option (List Char) :=
  (labels? cs).bind fun labels =>
    let hasRight := labels.any fun l => l.text.any fun c => (direction c).isFromRight
    if hasRight && !labels.all fun l => Label.isOneWay l.text then none
    else some (List.intercalate ['.'] (labels.map Label.ascii))

end CloudMetrics.Url
