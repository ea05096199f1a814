import CloudMetrics.Text.Blank

/-!
# Scanning

Steps that take characters off the front of a text and fail when it starts with anything else.
-/
namespace CloudMetrics.Text

abbrev Scan := StateT (List Char) Option

namespace Scan

/-- The result of a scan that uses up the whole text. -/
def run? {α : Type} (p : Scan α) (cs : List Char) : Option α :=
  match StateT.run p cs with
  | some (a,[]) => some a
  | _ => none

/-- The next character, when it satisfies a test. -/
def satisfy (test : Char → Bool) : Scan Char := fun cs =>
  match cs with
  | c :: r => if test c then some (c,r) else none
  | [] => none

def char (c : Char) : Scan Unit := discard (satisfy (· == c))

def takeWhile (test : Char → Bool) : Scan (List Char) := fun cs =>
  some (cs.takeWhile test,cs.dropWhile test)

def blanks : Scan Unit := discard (takeWhile isBlank)

/-- Goes on in one of two ways, by the next character. -/
def peek : Scan (Option Char) := fun cs => some (cs.head?,cs)

/-- As many digits as there are, up to `most` of them and at least `least`. -/
def digits (least most : Nat) : Scan (List Char) := fun cs =>
  let ds := (cs.take most).takeWhile Char.isDigit
  if least ≤ ds.length then some (ds,cs.drop ds.length) else none

def guardWith (ok : Bool) : Scan Unit := if ok then pure () else failure

end Scan

/-- A row of characters that satisfy a test ends before the first one that does not. -/
theorem takeWhile_dropWhile_append {α : Type} {test : α → Bool} {row rest : List α} (hrow : ∀ a ∈ row, test a)
    (hrest : ∀ a ∈ rest.head?, test a = false) :
    (row ++ rest).takeWhile test = row ∧ (row ++ rest).dropWhile test = rest := by
  rw [List.takeWhile_append_of_pos hrow,List.dropWhile_append_of_pos hrow]
  cases rest with
  | nil => exact ⟨List.append_nil row,rfl⟩
  | cons a rest =>
    have ha : ¬test a := Bool.not_eq_true _ ▸ hrest a rfl
    rw [List.takeWhile_cons_of_neg ha,List.dropWhile_cons_of_neg ha,List.append_nil]
    exact ⟨rfl,rfl⟩

/-- The parts of a text between the characters that satisfy a test. -/
def splitBy (test : Char → Bool) : List Char → List (List Char)
  | [] => [[]]
  | c :: r =>
    if test c then [] :: splitBy test r
    else match splitBy test r with
      | [] => [[c]]
      | w :: ws => (c :: w) :: ws

/-- What stands before the first of some marks, and what stands behind it. -/
theorem append_mark_inj {mark : Char} {cs ds es fs : List Char} (hcs : mark ∉ cs) (hds : mark ∉ ds) :
    cs ++ mark :: es = ds ++ mark :: fs ↔ cs = ds ∧ es = fs := by
  constructor
  · intro h
    have hwords := congrArg (List.splitOn mark) h
    rw [List.splitOn_append_cons_self_of_not_mem hcs,List.splitOn_append_cons_self_of_not_mem hds] at hwords
    have hstart := (List.cons.inj hwords).1
    rw [hstart] at h
    exact ⟨hstart,(List.cons.inj (List.append_cancel_left h)).2⟩
  · rintro ⟨rfl,rfl⟩
    rfl

/-- The number written by a row of digits. -/
def numeral (ds : List Char) : Nat := ds.foldl (fun n c => 10*n+(c.toNat - '0'.toNat)) 0

/-- A number as decimal digits. -/
def decimalDigits (n : Nat) : List Char := Nat.toDigits 10 n

theorem isDigit_of_mem_toDigits {n : Nat} {c : Char} (h : c ∈ Nat.toDigits 10 n) : c.isDigit :=
  Nat.isDigit_of_mem_toDigits (by decide) (by decide) h

/-- Zeros in front of the digits up to a width. -/
def padded (width n : Nat) : List Char :=
  let ds := decimalDigits n
  List.replicate (width-ds.length) '0' ++ ds

end CloudMetrics.Text
