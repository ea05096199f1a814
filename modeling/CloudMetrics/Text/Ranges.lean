/-!
# Tables of characters

Properties of characters are tables over their numbers: ranges with one value each, or runs in which every
number has an item of its own. Rows stand in ascending order, so that a look-up may end at the first row
above the number.
-/
namespace CloudMetrics.Text

/-- The value of the range that holds a number. -/
def rangeOf? {α : Type} : List (Nat × Nat × α) → Nat → Option α
  | [], _ => none
  | (first,last,v) :: r, n => if n < first then none else if n ≤ last then some v else rangeOf? r n

/-- How far a number is from the start of the range that holds it. -/
def placeIn? : List (Nat × Nat) → Nat → Option Nat
  | [], _ => none
  | (first,last) :: r, n => if n < first then none else if n ≤ last then some (n-first) else placeIn? r n

/-- The item of a number in the run that holds it; a run gives its first number and its items. -/
def itemOf? {α β : Type} (items : β → List α) : List (Nat × β) → Nat → Option α
  | [], _ => none
  | (first,run) :: r, n =>
    if n < first then none else ((items run)[n-first]?).orElse fun _ => itemOf? items r n

def inRanges (table : List (Nat × Nat)) (n : Nat) : Bool := (placeIn? table n).isSome

end CloudMetrics.Text
