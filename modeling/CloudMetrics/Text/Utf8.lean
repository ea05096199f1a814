/-!
# UTF-8

A text as bytes, and bytes as text. Reading cuts the bytes into pieces: each piece is one scalar
value, or the longest start of a sequence that no scalar value continues. A strict reader accepts
scalar values only, a lossy one writes U+FFFD for every other piece.
-/
namespace CloudMetrics.Text.Utf8

/-- The bytes of one character, by the number of bits it needs: 7, 11, 16 or 21. -/
def encodeChar (c : Char) : List UInt8 :=
  let n := c.toNat
  let tail (k : Nat) : UInt8 := UInt8.ofNat (0x80 + k%64)
  if n < 0x80 then [UInt8.ofNat n]
  else if n < 0x800 then [UInt8.ofNat (0xC0 + n/64), tail n]
  else if n < 0x10000 then [UInt8.ofNat (0xE0 + n/4096), tail (n/64), tail n]
  else [UInt8.ofNat (0xF0 + n/262144), tail (n/4096), tail (n/64), tail n]

def encodeList (cs : List Char) : List UInt8 := cs.flatMap encodeChar

def encode (s : String) : List UInt8 := encodeList s.toList

/-- The number of bytes of one character. -/
def width (c : Char) : Nat := (encodeChar c).length

inductive Piece where
  | scalar (c : Char)
  /-- Bytes that stand for no character. -/
  | stray (bytes : List UInt8)
deriving DecidableEq, Repr

/-- The number of bytes of a piece. -/
def Piece.size : Piece → Nat
  | .scalar c => width c
  | .stray bs => bs.length

/-- The character of a piece, if it is one. -/
def Piece.char? : Piece → Option Char
  | .scalar c => some c
  | .stray _ => none

/-- What a first byte asks for: the number of bytes after it and the range of the next one. The
ranges leave out overlong forms, surrogates and values above U+10FFFF. -/
def expects (a : UInt8) : Option (Nat × Nat × Nat) :=
  let n := a.toNat
  if n < 0xC2 then none
  else if n ≤ 0xDF then some (1,0x80,0xBF)
  else if n = 0xE0 then some (2,0xA0,0xBF)
  else if n = 0xED then some (2,0x80,0x9F)
  else if n ≤ 0xEF then some (2,0x80,0xBF)
  else if n = 0xF0 then some (3,0x90,0xBF)
  else if n ≤ 0xF3 then some (3,0x80,0xBF)
  else if n = 0xF4 then some (3,0x80,0x8F)
  else none

def within (lo hi : Nat) (b : UInt8) : Bool := lo ≤ b.toNat && b.toNat ≤ hi

/-- The six payload bits of a continuation byte. -/
def payload (b : UInt8) : Nat := b.toNat%64

def pieces : List UInt8 → List Piece
  | [] => []
  | a :: r =>
    if a.toNat < 0x80 then .scalar (Char.ofNat a.toNat) :: pieces r
    else match expects a with
      | none => .stray [a] :: pieces r
      | some (more,lo,hi) =>
        match r with
        | [] => [.stray [a]]
        | b :: r₂ =>
          if within lo hi b then
            if more = 1 then .scalar (Char.ofNat (a.toNat%32*64 + payload b)) :: pieces r₂
            else match r₂ with
              | [] => [.stray [a,b]]
              | c :: r₃ =>
                if within 0x80 0xBF c then
                  if more = 2 then
                    .scalar (Char.ofNat (a.toNat%16*4096 + payload b*64 + payload c)) :: pieces r₃
                  else match r₃ with
                    | [] => [.stray [a,b,c]]
                    | d :: r₄ =>
                      if within 0x80 0xBF d then
                        .scalar (Char.ofNat
                          (a.toNat%8*262144 + payload b*4096 + payload c*64 + payload d)) :: pieces r₄
                      else .stray [a,b,c] :: pieces (d :: r₄)
                else .stray [a,b] :: pieces (c :: r₃)
          else .stray [a] :: pieces (b :: r₂)

/-- The text of the bytes, if every piece is a character. -/
def decode? (bytes : List UInt8) : Option String :=
  ((pieces bytes).mapM Piece.char?).map String.ofList

/-- The text of the bytes, with U+FFFD in place of every piece that is no character. -/
def decodeLossy (bytes : List UInt8) : String :=
  String.ofList ((pieces bytes).map fun p => p.char?.getD '\uFFFD')

@[simp] theorem encodeList_nil : encodeList [] = [] := rfl

@[simp] theorem encodeList_cons (c : Char) (cs : List Char) :
    encodeList (c :: cs) = encodeChar c ++ encodeList cs := rfl

@[simp] theorem encodeList_append (cs ds : List Char) :
    encodeList (cs ++ ds) = encodeList cs ++ encodeList ds := by
  simp [encodeList]

end CloudMetrics.Text.Utf8
