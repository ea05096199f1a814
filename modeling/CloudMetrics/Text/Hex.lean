/-!
# Hexadecimal digits
-/
namespace CloudMetrics.Text

/-- The value of a digit in either case. -/
def hexValue? (c : Char) : Option Nat :=
  if '0' ≤ c && c ≤ '9' then some (c.toNat-48)
  else if 'a' ≤ c && c ≤ 'f' then some (c.toNat-87)
  else if 'A' ≤ c && c ≤ 'F' then some (c.toNat-55)
  else none

def lowerHex (n : Nat) : Char := if n < 10 then Char.ofNat (48+n) else Char.ofNat (87+n)

def upperHex (n : Nat) : Char := if n < 10 then Char.ofNat (48+n) else Char.ofNat (55+n)

theorem hexValue?_upperHex {n : Nat} (h : n < 16) : hexValue? (upperHex n) = some n := by
  have all : ∀ k : Fin 16, hexValue? (upperHex k) = some k.val := by decide
  exact all ⟨n,h⟩

end CloudMetrics.Text
