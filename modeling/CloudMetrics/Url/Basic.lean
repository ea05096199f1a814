import CloudMetrics.Url.Host

/-!
# URLs

A URL is read in stages: blanks at the ends and line breaks are dropped, then come the scheme, the
authority, the path, the query and the fragment. The schemes of the web need a host, and a backslash
is a slash in them. A path has no segment `.` or `..`.
-/
namespace CloudMetrics

/-- An absolute URL. The path, the query and the fragment are percent encoded. -/
structure Url where
  scheme : List Char
  username : List Char := []
  password : Option (List Char) := none
  host : Option Url.Host := none
  /-- None when the scheme's own port is used. -/
  port : Option Nat := none
  path : List Char
  query : Option (List Char) := none
  fragment : Option (List Char) := none
deriving DecidableEq, Repr

namespace Url

open Text

/-- The schemes of the web and their ports. -/
def specialSchemes : List (String × Option Nat) :=
  [("http",some 80),("https",some 443),("ws",some 80),("wss",some 443),("ftp",some 21),("file",none)]

def isSpecial (scheme : List Char) : Bool := (specialSchemes.lookup (String.ofList scheme)).isSome

def defaultPort? (scheme : List Char) : Option Nat := (specialSchemes.lookup (String.ofList scheme)).join

def isEdgeBlank (c : Char) : Bool := c.toNat ≤ 0x20

def isBreak (c : Char) : Bool := c = '\t' || c = '\n' || c = '\r'

/-- The text that is read. -/
def clean (cs : List Char) : List Char :=
  (((cs.dropWhile isEdgeBlank).reverse.dropWhile isEdgeBlank).reverse).filter fun c => !isBreak c

def isSchemeChar (c : Char) : Bool := c.isAlphanum || c = '+' || c = '-' || c = '.'

/-- The scheme in lower case, and what follows its colon. -/
def cutScheme (cs : List Char) : Option (List Char × List Char) :=
  match cs.head? with
  | none => none
  | some c =>
    if c.isAlpha then
      match cs.dropWhile isSchemeChar with
      | ':' :: r => some ((cs.takeWhile isSchemeChar).map Char.toLower,r)
      | _ => none
    else none

def isSlash (special : Bool) (c : Char) : Bool := c = '/' || (special && c = '\\')

def endsAuthority (special : Bool) (c : Char) : Bool := isSlash special c || c = '?' || c = '#'

/-- The text before the last at-sign, if there is one, and the text after it. -/
def cutUserinfo (cs : List Char) : Option (List Char) × List Char :=
  if cs.contains '@' then
    let host := (cs.reverse.takeWhile (· ≠ '@')).reverse
    (some (cs.take (cs.length-host.length-1)),host)
  else (none,cs)

/-- The host, up to a colon outside square brackets, and the rest. -/
def cutHost : Bool → List Char → List Char × List Char
  | _, [] => ([],[])
  | inside, c :: r =>
    if c = ':' && !inside then ([],c :: r)
    else
      let (h,rest) := cutHost (c = '[' || (inside && c ≠ ']')) r
      (c :: h,rest)

/-- A port after its colon: digits up to 65535, none for the scheme's own. -/
def readPort (scheme : List Char) (cs : List Char) : Except Fault (Option Nat) :=
  if !cs.all Char.isDigit then .error .invalidPort
  else
    let n := cs.foldl (fun n c => 10*n+(c.toNat-48)) 0
    if 65535 < n then .error .invalidPort
    else if cs.isEmpty || some n = defaultPort? scheme then .ok none
    else .ok (some n)

/-- User, password, host and port. -/
structure Authority where
  username : List Char := []
  password : Option (List Char) := none
  host : Option Host := none
  port : Option Nat := none

/-- User and password; an empty password is none. -/
def readUserinfo (cs : List Char) : List Char × Option (List Char) :=
  match cs.dropWhile (· ≠ ':') with
  | _ :: p =>
    (percentEncode inUserinfo (cs.takeWhile (· ≠ ':')),
      if p.isEmpty then none else some (percentEncode inUserinfo p))
  | [] => (percentEncode inUserinfo cs,none)

/-- Whether an authority may lack its host: not where a user, a password or a port is named, nor where
the text goes on after a lone at-sign. -/
def mayLackHost (userinfo : Option (List Char)) (portText rest : List Char) : Bool :=
  portText.isEmpty && match userinfo with
    | none => true
    | some [] => rest.isEmpty
    | some u => u = [':']

/-- The authority in a text, and what its port leaves over of it: a backslash ends a port. The rest of
the URL follows the text. -/
def readAuthority (scheme : List Char) (cs rest : List Char) : Except Fault (Authority × List Char) := do
  let special := isSpecial scheme
  let (userinfo,r) := cutUserinfo cs
  let (hostText,portText) := cutHost false r
  if hostText.isEmpty && (special || !mayLackHost userinfo portText rest) then throw .emptyHost
  let host ← if special then readHost hostText else readOpaqueHost hostText
  let digits := (portText.drop 1).takeWhile (· ≠ '\\')
  let port ← readPort scheme digits
  let (username,password) := readUserinfo (userinfo.getD [])
  return (⟨username,password,some host,port⟩,(portText.drop 1).dropWhile (· ≠ '\\'))

/-- A path segment with its escaped points written out, in lower case. -/
def plainPoints : List Char → List Char
  | '%' :: '2' :: 'e' :: r | '%' :: '2' :: 'E' :: r => '.' :: plainPoints r
  | c :: r => c :: plainPoints r
  | [] => []

def isSingleDot (w : List Char) : Bool := plainPoints w = ['.']

def isDoubleDot (w : List Char) : Bool := plainPoints w = ['.','.']

/-- Takes segments onto the ones before them (the last first): `.` is left out, `..` takes one away,
and at the end both leave an empty segment. -/
def foldSegments : List (List Char) → List (List Char) → List (List Char)
  | acc, [] => acc.reverse
  | acc, w :: ws =>
    let last := ws.isEmpty
    if isDoubleDot w then foldSegments (if last then [] :: acc.drop 1 else acc.drop 1) ws
    else if isSingleDot w then foldSegments (if last then [] :: acc else acc) ws
    else foldSegments (w :: acc) ws

/-- The path of a text that starts with a slash or is empty. -/
def readPath (special : Bool) (cs : List Char) : List Char :=
  let segments := splitBy (isSlash special) (cs.drop 1)
  (foldSegments [] (segments.map (percentEncode inPath))).flatMap ('/' :: ·)

/-- The text before a mark, and the text after it, if the mark is there. -/
def cutAt (mark : Char) (cs : List Char) : List Char × Option (List Char) :=
  match cs.dropWhile (· ≠ mark) with
  | _ :: r => (cs.takeWhile (· ≠ mark),some r)
  | [] => (cs,none)

/-- A URL from its scheme and authority, and the text after them. -/
def withTail (scheme : List Char) (a : Authority) (path : List Char → List Char) (cs : List Char) : Url :=
  let (cs,fragment) := cutAt '#' cs
  let (cs,query) := cutAt '?' cs
  ⟨scheme,a.username,a.password,a.host,a.port,path cs,
    query.map (percentEncode (inQuery (isSpecial scheme))),fragment.map (percentEncode inFragment)⟩

/-- A path after an authority. -/
def rootedPath (special : Bool) (cs : List Char) : List Char :=
  if cs.isEmpty && !special then []
  else readPath special (if cs.head?.any (isSlash special) then cs else '/' :: cs)

/-- A letter and a colon or a bar. -/
def isDriveLetter (cs : List Char) : Bool :=
  match cs with
  | [c,mark] => c.isAlpha && (mark = ':' || mark = '|')
  | _ => false

/-- The host of a file and its path. A drive letter in place of the host starts the path. -/
def parseFile (cs : List Char) : Except Fault Url :=
  let scheme := "file".toList
  let stop := endsAuthority true
  match cs with
  | a :: b :: r =>
    let authority := r.takeWhile (!stop ·)
    if !(isSlash true a && isSlash true b) then .ok (withTail scheme {} (rootedPath true) cs)
    else if authority.isEmpty || isDriveLetter authority then .ok (withTail scheme {} (rootedPath true) r)
    else (readHost authority).map fun h =>
      withTail scheme { host := if h = .domain "localhost".toList then none else some h } (rootedPath true)
        (r.dropWhile (!stop ·))
  | _ => .ok (withTail scheme {} (rootedPath true) cs)

def parseList (cs : List Char) : Except Fault Url :=
  match cutScheme (clean cs) with
  | none => .error .relativeWithoutBase
  | some (scheme,r) =>
    let special := isSpecial scheme
    let stop := endsAuthority special
    let afterSlashes (r : List Char) : Except Fault Url :=
      let rest := r.dropWhile (!stop ·)
      (readAuthority scheme (r.takeWhile (!stop ·)) rest).map fun (a,left) =>
        withTail scheme a (rootedPath special) (left++rest)
    if scheme = "file".toList then parseFile r
    else if special then afterSlashes (r.dropWhile (isSlash true))
    else match r with
      | '/' :: '/' :: r => afterSlashes r
      | '/' :: r => .ok (withTail scheme {} (readPath false) ('/' :: r))
      | r => .ok (withTail scheme {} (percentEncode isControl) r)

/-- Reads an absolute URL. -/
def parse (s : String) : Except Fault Url := parseList s.toList

/-- Whether the URL names a server that speaks the protocol of the web. -/
def isFetchable (u : Url) : Bool :=
  (u.scheme = "http".toList || u.scheme = "https".toList) && u.host.isSome

/-- The path and the query, as a request names them. -/
def target (u : Url) : String :=
  String.ofList (u.path ++ match u.query with
    | none => []
    | some q => '?' :: q)

end Url

end CloudMetrics
