import CloudMetrics.Cloud.Call
import CloudMetrics.Text.Base64

/-!
# The client

Calls over the network: each is one request to a URL below the root, with the credentials in a
header. The network is a function from requests to replies.
-/
namespace CloudMetrics.Cloud

open Json Text

structure ClientSettings where
  rootUrl : String := "https://secure.sakura.ad.jp/cloud/zone"
  token : String := ""
  secret : String := ""
  timeoutMillis : Nat := 20000
  userAgent : String := "sakuracloud-exporter/0.1.0"
deriving DecidableEq, Repr

structure Request where
  url : Url
  authorization : String
  userAgent : String
  timeoutMillis : Nat
deriving DecidableEq, Repr

inductive Reply where
  | answered (status : Nat) (body : List UInt8)
  /-- No answer, or one that broke off. -/
  | lost
deriving DecidableEq, Repr

abbrev Network := Request → Reply

structure Client where
  /-- The root URL without slashes at its end. -/
  root : String
  token : String
  secret : String
  timeoutMillis : Nat
  userAgent : String
deriving DecidableEq, Repr

/-- A header holds no control characters but the tab. -/
def isHeaderText (s : String) : Bool :=
  s.toList.all fun c => c = '\t' || (0x20 ≤ c.toNat && c.toNat ≠ 0x7F)

def dropSlashes (s : String) : String := String.ofList (s.toList.reverse.dropWhile (· = '/')).reverse

namespace Client

/-- A client for some settings; a root that is no URL is refused here. -/
def new (s : ClientSettings) : Except ApiError Client :=
  if !isHeaderText s.userAgent then .error .client
  else match Url.parse s.rootUrl with
    | .error f => .error (.url f)
    | .ok _ => .ok ⟨dropSlashes s.rootUrl,s.token,s.secret,s.timeoutMillis,s.userAgent⟩

/-- The text of a query: compact JSON, form encoded. -/
def encodeQuery (q : Json) : List Char := Url.formEncode (Utf8.encodeList q.writeList)

/-- The URL of a path in a zone. -/
def endpoint (client : Client) (zone path : String) (query : Option Json) : Except ApiError Url :=
  match Url.parse (client.root ++ "/" ++ zone ++ "/api/cloud/1.1/" ++ path) with
  | .error f => .error (.url f)
  | .ok url => .ok (match query with
    | none => url
    | some q => { url with query := some (encodeQuery q) })

def authorization (client : Client) : String :=
  "Basic " ++ String.ofList (Base64.encode (Utf8.encode (client.token ++ ":" ++ client.secret)))

def request (client : Client) (url : Url) : Request :=
  ⟨url,client.authorization,client.userAgent,client.timeoutMillis⟩

/-- The message inside the body of an error. -/
def errorShape : Shape (Option String) := .record (Fields.start id |>.optional "error_msg" .string)

/-- The message of an error status: the one inside the body, otherwise the body itself. -/
def errorMessage (body : List UInt8) : String :=
  match Call.decodeBody errorShape body with
  | .ok (some message) => message
  | _ => Utf8.decodeLossy body

/-- The outcome of a reply to a call. -/
def outcome (c : Call) : Reply → Except ApiError c.Answer
  | .lost => .error (.transport c.path)
  | .answered status body =>
    if 200 ≤ status ∧ status < 300 then
      match c.decode body with
      | .ok a => .ok a
      | .error cause => .error (.decode c.path cause)
    else .error (.status c.path status (errorMessage body))

/-- The cloud behind a network. A URL that is not for the web never leaves the client. -/
def api (client : Client) (network : Network) : Api := fun c =>
  match client.endpoint c.zone c.path c.query? with
  | .error e => .error e
  | .ok url =>
    outcome c (if url.isFetchable then network (client.request url) else .lost)

end Client

end CloudMetrics.Cloud
