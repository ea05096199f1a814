import CloudMetrics.Text.Scan
import CloudMetrics.Url.Domain
import CloudMetrics.Url.Percent

/-!
# Hosts

What stands between the slashes and the port of a URL: a domain, an IPv4 or an IPv6 address. URLs
that are not for the web have an opaque host.
-/
namespace CloudMetrics.Url

open Text

/-- Why a text is no URL. -/
inductive Fault where
  | emptyHost | invalidDomain | invalidPort | invalidIpv4 | invalidIpv6 | invalidHostCharacter
  | relativeWithoutBase
deriving DecidableEq, Repr

def Fault.text : Fault → String
  | .emptyHost => "empty host"
  | .invalidDomain => "invalid international domain name"
  | .invalidPort => "invalid port number"
  | .invalidIpv4 => "invalid IPv4 address"
  | .invalidIpv6 => "invalid IPv6 address"
  | .invalidHostCharacter => "invalid domain character"
  | .relativeWithoutBase => "relative URL without a base"

inductive Host where
  | domain (name : List Char)
  | ipv4 (address : Nat)
  /-- Eight groups of 16 bits. -/
  | ipv6 (groups : List Nat)
  | unknown (name : List Char)
deriving DecidableEq, Repr

/-- A decimal number of up to three digits without a leading zero, below 256. -/
def octet? (cs : List Char) : Option Nat :=
  if cs.isEmpty || 3 < cs.length || !cs.all Char.isDigit || (1 < cs.length && cs.head? = some '0') then none
  else
    let n := cs.foldl (fun n c => 10*n+(c.toNat-48)) 0
    if n < 256 then some n else none

/-- Four octets with points between. -/
def dottedQuad? (cs : List Char) : Option Nat :=
  match (splitBy (· = '.') cs).mapM octet? with
  | some [a,b,c,d] => some (a*16777216+b*65536+c*256+d)
  | _ => none

def hexNumber (cs : List Char) : Nat := cs.foldl (fun n c => 16*n+(hexValue? c).getD 0) 0

/-- One to four hexadecimal digits. -/
def group? (cs : List Char) : Option Nat :=
  if cs.isEmpty || 4 < cs.length || !cs.all (fun c => (hexValue? c).isSome) then none
  else some (hexNumber cs)

/-- Groups with colons between; the last two may be written as a dotted quad. -/
def groups? : List (List Char) → Option (List Nat)
  | [] => some []
  | [w] => match group? w with
    | some g => some [g]
    | none => (dottedQuad? w).map fun n => [n/65536,n%65536]
  | w :: ws => (group? w).bind fun g => (groups? ws).map (g :: ·)

def sideGroups? (cs : List Char) : Option (List Nat) :=
  if cs.isEmpty then some [] else groups? (splitBy (· = ':') cs)

/-- The text before and after the first double colon. -/
def cutDoubleColon : List Char → Option (List Char × List Char)
  | ':' :: ':' :: r => some ([],r)
  | c :: r => (cutDoubleColon r).map fun p => (c :: p.1,p.2)
  | [] => none

/-- The eight groups of an IPv6 address, in which two colons stand for one or more zero groups. -/
def ipv6? (cs : List Char) : Option (List Nat) :=
  match cutDoubleColon cs with
  | none => (sideGroups? cs).bind fun gs => if gs.length = 8 then some gs else none
  | some (l,r) =>
    if l.contains '.' then none
    else match sideGroups? l, sideGroups? r with
      | some a, some b =>
        if a.length+b.length ≤ 7 then some (a++List.replicate (8-a.length-b.length) 0++b) else none
      | _, _ => none

/-- A part of an IPv4 address as the web writes it: decimal, hexadecimal after `0x`, octal after `0`. -/
def webNumber? (cs : List Char) : Option Nat :=
  match cs with
  | [] => none
  | '0' :: 'x' :: r | '0' :: 'X' :: r =>
    if r.all fun c => (hexValue? c).isSome then some (hexNumber r) else none
  | '0' :: d :: r =>
    if (d :: r).all fun c => '0' ≤ c && c ≤ '7' then
      some ((d :: r).foldl (fun n c => 8*n+(c.toNat-48)) 0)
    else none
  | cs => if cs.all Char.isDigit then some (cs.foldl (fun n c => 10*n+(c.toNat-48)) 0) else none

/-- The parts of a domain, without an empty one at the end. -/
def domainParts (cs : List Char) : List (List Char) :=
  let parts := splitBy (· = '.') cs
  if parts.getLast? = some [] && 1 < parts.length then parts.dropLast else parts

/-- Such a domain is read as an IPv4 address or not at all. -/
def endsInNumber (cs : List Char) : Bool :=
  match (domainParts cs).getLast? with
  | none => false
  | some w => (!w.isEmpty && w.all Char.isDigit) || (webNumber? w).isSome

/-- The address of one to four numbers, the last of which fills the bytes that the others leave. -/
def joinIpv4? (ns : List Nat) : Option Nat :=
  let front := ns.dropLast
  let last := ns.getLast?.getD 0
  if 4 < ns.length || front.any (255 < ·) || Nat.pow 256 (5-ns.length) ≤ last then none
  else
    let (sum,_) := front.foldl (fun (acc : Nat × Nat) n => (acc.1+n*Nat.pow 256 acc.2,acc.2-1)) (0,3)
    some (sum+last)

def webIpv4? (cs : List Char) : Option Nat := ((domainParts cs).mapM webNumber?).bind joinIpv4?

/-- Text in square brackets is an IPv6 address. -/
def bracketed? (cs : List Char) : Option (Except Fault Host) :=
  match cs with
  | '[' :: r =>
    if r.getLast? = some ']' then some (match ipv6? r.dropLast with
      | some gs => .ok (.ipv6 gs)
      | none => .error .invalidIpv6)
    else some (.error .invalidIpv6)
  | _ => none

/-- The host of a URL for the web: a domain in its written form, or the address that this form reads as. -/
def readHost (cs : List Char) : Except Fault Host :=
  match bracketed? cs with
  | some r => r
  | none =>
    match Utf8.decode? (percentDecode cs) with
    | none => .error .invalidDomain
    | some s =>
      match domainName? s.toList with
      | none => .error .invalidDomain
      | some name =>
        if name.isEmpty then .error .emptyHost
        else if endsInNumber name then
          match webIpv4? name with
          | some n => .ok (.ipv4 n)
          | none => .error .invalidIpv4
        else .ok (.domain name)

/-- The host of any other URL. -/
def readOpaqueHost (cs : List Char) : Except Fault Host :=
  match bracketed? cs with
  | some r => r
  | none =>
    if cs.any isForbiddenInHost then .error .invalidHostCharacter
    else .ok (.unknown (percentEncode isControl cs))

end CloudMetrics.Url
