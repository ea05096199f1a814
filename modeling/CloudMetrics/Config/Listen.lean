import CloudMetrics.Url.Host

/-!
# Listen addresses

An IP address and a port: `127.0.0.1:9542`, or `[::1]:9542` with an optional number after a percent
sign for the scope. A server also listens at a host that is looked up, which may be written with fewer
numbers or in other bases: `localhost:9542`, `127.1:9542`.
-/
namespace CloudMetrics.Config

open Url

inductive Ip where
  | v4 (address : Nat)
  | v6 (groups : List Nat)
deriving DecidableEq, Repr

structure SocketAddress where
  ip : Ip
  port : Nat
deriving DecidableEq, Repr

/-- Digits of a number below 65536. -/
def readPortNumber? (cs : List Char) : Option Nat :=
  if cs.isEmpty || !cs.all Char.isDigit then none
  else
    let n := cs.foldl (fun n c => 10*n+(c.toNat-48)) 0
    if n < 65536 then some n else none

/-- The address in the brackets, and a scope of 32 bits after a percent sign. -/
def readScoped? (cs : List Char) : Option Ip :=
  let address := cs.takeWhile (· ≠ '%')
  match cs.dropWhile (· ≠ '%') with
  | [] => (ipv6? address).map .v6
  | _ :: scope =>
    if scope.isEmpty || !scope.all Char.isDigit || 4294967295 < scope.foldl (fun n c => 10*n+(c.toNat-48)) 0 then none
    else (ipv6? address).map .v6

def readSocketAddress? (s : String) : Option SocketAddress :=
  match s.toList with
  | '[' :: r =>
    match r.dropWhile (· ≠ ']') with
    | ']' :: ':' :: p =>
      (readScoped? (r.takeWhile (· ≠ ']'))).bind fun ip => (readPortNumber? p).map fun port => ⟨ip,port⟩
    | _ => none
  | cs =>
    match cs.dropWhile (· ≠ ':') with
    | ':' :: p =>
      (dottedQuad? (cs.takeWhile (· ≠ ':'))).bind fun n => (readPortNumber? p).map fun port => ⟨.v4 n,port⟩
    | _ => none

def canBindIpv4 (n : Nat) : Bool :=
  n = 0 || n = 4294967295 || n/16777216 = 127 || n/268435456 = 14

/-- Whether a socket can be bound: to all addresses of this machine, to its own loop, to a group or to
a broadcast. The last two are written as IPv4 addresses, which may stand in IPv6 ones. -/
def Ip.canBind : Ip → Bool
  | .v4 n => canBindIpv4 n
  | .v6 [0,0,0,0,0,0xFFFF,a,b] => canBindIpv4 (65536*a+b)
  | .v6 groups => groups.dropLast.all (· = 0) && groups.getLast?.any (· ≤ 1)

/-- One to four numbers with points between: decimal, hexadecimal after `0x`, octal after `0`. -/
def looseIpv4? (cs : List Char) : Option Nat :=
  ((Text.splitBy (· = '.') cs).mapM fun w =>
    if w = ['0','x'] || w = ['0','X'] then none else webNumber? w).bind joinIpv4?

/-- The address of a host: one that is written out, or the local host by name. -/
def lookUp? (host : List Char) : Option Ip :=
  if host.map Char.toLower = "localhost".toList then some (.v4 0x7F000001)
  else ((looseIpv4? host).map .v4).orElse fun _ => readScoped? host

/-- The text before the last colon, and the text after it. -/
def cutLastColon? (cs : List Char) : Option (List Char × List Char) :=
  if cs.contains ':' then
    let port := (cs.reverse.takeWhile (· ≠ ':')).reverse
    some (cs.take (cs.length-port.length-1),port)
  else none

/-- A plus sign may stand before a port number. -/
def readSignedPort? : List Char → Option Nat
  | '+' :: r => readPortNumber? r
  | cs => readPortNumber? cs

/-- Whether a server can listen at an address, or at a host and a port. -/
def canListen (s : String) : Bool :=
  match readSocketAddress? s with
  | some a => a.ip.canBind
  | none =>
    match cutLastColon? s.toList with
    | some (host,port) => (readSignedPort? port).isSome && (lookUp? host).any Ip.canBind
    | none => false

end CloudMetrics.Config
