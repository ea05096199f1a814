/-!
# Base64

Three bytes as four characters of an alphabet of 64; equals signs fill the last group.
-/
namespace CloudMetrics.Text.Base64

def digit (n : Nat) : Char :=
  if n < 26 then Char.ofNat (65+n)
  else if n < 52 then Char.ofNat (71+n)
  else if n < 62 then Char.ofNat (n-4)
  else if n = 62 then '+' else '/'

def encode : List UInt8 → List Char
  | [] => []
  | [a] =>
    let n := a.toNat*65536
    [digit (n/262144),digit (n/4096%64),'=','=']
  | [a,b] =>
    let n := a.toNat*65536+b.toNat*256
    [digit (n/262144),digit (n/4096%64),digit (n/64%64),'=']
  | a :: b :: c :: r =>
    let n := a.toNat*65536+b.toNat*256+c.toNat
    digit (n/262144) :: digit (n/4096%64) :: digit (n/64%64) :: digit (n%64) :: encode r

end CloudMetrics.Text.Base64
