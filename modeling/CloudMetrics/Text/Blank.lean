/-!
# Blank characters

The Unicode property White_Space: the characters that trimming removes.
-/
namespace CloudMetrics.Text

/-- The ranges of the property, ascending: 25 characters in all. -/
def blankRanges : List (Nat × Nat) :=
  [(0x09,0x0D),(0x20,0x20),(0x85,0x85),(0xA0,0xA0),(0x1680,0x1680),(0x2000,0x200A),
   (0x2028,0x2029),(0x202F,0x202F),(0x205F,0x205F),(0x3000,0x3000)]

def isBlank (c : Char) : Bool :=
  blankRanges.any fun r => r.1 ≤ c.toNat && c.toNat ≤ r.2

/-- What is left after the blanks at both ends are dropped. -/
def trimList (cs : List Char) : List Char :=
  ((cs.dropWhile isBlank).reverse.dropWhile isBlank).reverse

def trim (s : String) : String := String.ofList (trimList s.toList)

@[simp] theorem trimList_nil : trimList [] = [] := rfl

end CloudMetrics.Text
