import CloudMetrics.Text.Canonical
import CloudMetrics.Text.Mark

/-!
# Composed form

Texts that stand for the same have one composed form. A text is taken apart, the marks behind each
character are put in the order of their classes, and then every mark that can be is joined to the
character it stands behind.
-/
namespace CloudMetrics.Text

/-- Syllables are numbered by their lead, vowel and tail; the first tail is none. -/
def firstSyllable : Nat := 0xAC00

def syllableCount : Nat := 11172

def firstLead : Nat := 0x1100

def firstVowel : Nat := 0x1161

def firstTail : Nat := 0x11A7

/-- The letters of a syllable. -/
def syllableParts? (c : Char) : Option (List Char) :=
  let n := c.toNat-firstSyllable
  if c.toNat < firstSyllable || syllableCount ≤ n then none
  else
    let pair := [Char.ofNat (firstLead+n/588),Char.ofNat (firstVowel+n%588/28)]
    some (if n%28 = 0 then pair else pair ++ [Char.ofNat (firstTail+n%28)])

/-- A lead and a vowel, or a syllable without a tail and a tail. -/
def joinSyllable? (a b : Char) : Option Char :=
  let lead := a.toNat-firstLead
  let vowel := b.toNat-firstVowel
  let syllable := a.toNat-firstSyllable
  if firstLead ≤ a.toNat && lead < 19 && firstVowel ≤ b.toNat && vowel < 21 then
    some (Char.ofNat (firstSyllable+(lead*21+vowel)*28))
  else if firstSyllable ≤ a.toNat && syllable < syllableCount && syllable%28 = 0 &&
      firstTail < b.toNat && b.toNat < firstTail+28 then
    some (Char.ofNat (a.toNat+(b.toNat-firstTail)))
  else none

/-- The two parts of a character in the tables. -/
def tableParts? (n : Nat) : Option (Nat × Nat) :=
  ((composites.find? fun r => r.2.2 = n).map fun r => (r.1,r.2.1)).orElse fun _ =>
    (brokenComposites.find? fun r => r.1 = n).map Prod.snd

/-- The parts of a character, as far as they can be taken apart; none takes more than four steps. -/
def takeApart : Nat → Char → List Char
  | 0, c => [c]
  | fuel+1, c =>
    if c.toNat < 0x80 then [c]
    else match syllableParts? c, itemOf? String.toList replacements c.toNat, tableParts? c.toNat with
      | some cs, _, _ => cs
      | none, some d, _ => takeApart fuel d
      | none, none, some (a,b) => takeApart fuel (Char.ofNat a) ++ [Char.ofNat b]
      | none, none, none => [c]

/-- A mark goes behind those of its own class and of lower ones. -/
def insertMark (m : Nat × Char) : List (Nat × Char) → List (Nat × Char)
  | [] => [m]
  | n :: r => if m.1 < n.1 then m :: n :: r else n :: insertMark m r

/-- Puts the marks behind each character in order; the marks at the front are the ones seen so far. -/
def orderMarks : List (Nat × Char) → List Char → List (Nat × Char)
  | seen, [] => seen
  | seen, c :: cs =>
    let k := combiningClass c
    if k = 0 then seen ++ (0,c) :: orderMarks [] cs else orderMarks (insertMark (k,c) seen) cs

/-- What two characters are joined to. -/
def join? (a b : Char) : Option Char :=
  (joinSyllable? a b).orElse fun _ =>
    (composites.find? fun r => r.1 = a.toNat && r.2.1 = b.toNat).map fun r => Char.ofNat r.2.2

/-- A text under composition: what is done, the character that takes marks, and the marks behind it.
What comes last stands first. -/
structure Composing where
  done : List Char := []
  base : Option Char := none
  marks : List (Nat × Char) := []

namespace Composing

/-- All characters, the last one first. -/
def reversed (s : Composing) : List Char := s.marks.map Prod.snd ++ s.base.toList ++ s.done

/-- A mark is joined to the character it stands behind, unless one of its class or of a higher one is
between them. -/
def step (s : Composing) (m : Nat × Char) : Composing :=
  let isFree := match s.marks with
    | [] => true
    | (k,_) :: _ => k < m.1
  match if isFree then s.base.bind fun a => join? a m.2 else none with
  | some c => { s with base := some c }
  | none =>
    if m.1 = 0 then { done := s.reversed, base := some m.2 }
    else { s with marks := m :: s.marks }

end Composing

/-- The composed form of a text. -/
def compose (cs : List Char) : List Char :=
  ((orderMarks [] (cs.flatMap (takeApart 4))).foldl Composing.step {}).reversed.reverse

end CloudMetrics.Text
