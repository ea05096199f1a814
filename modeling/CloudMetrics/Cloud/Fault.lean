import CloudMetrics.Url.Basic

/-!
# Failed calls

Why a call to the cloud gave no answer, and which of these reasons speak about the cloud's health.
-/
namespace CloudMetrics.Cloud

/-- Why a body is no answer. -/
inductive DecodeCause where
  /-- The body is no JSON. -/
  | malformed (text : String)
  /-- The body is JSON of another shape. -/
  | mismatched
deriving DecidableEq, Repr

def DecodeCause.text : DecodeCause → String
  | .malformed text => text
  | .mismatched => "unexpected shape of value"

inductive ApiError where
  | url (cause : Url.Fault)
  /-- No answer, or one that broke off. -/
  | transport (path : String)
  | status (path : String) (code : Nat) (message : String)
  | decode (path : String) (cause : DecodeCause)
  /-- No client can be built from the settings. -/
  | client
deriving DecidableEq, Repr

namespace ApiError

def message : ApiError → String
  | .url cause => "invalid API URL: " ++ cause.text
  | .transport path => "request to " ++ path ++ " failed"
  | .status path code message => path ++ " returned " ++ toString code ++ ": " ++ message
  | .decode path cause => "failed to decode response from " ++ path ++ ": " ++ cause.text
  | .client => "failed to build HTTP client: builder error"

/-- The text of the cause, where an error has a cause of its own. -/
def cause? : ApiError → Option String
  | .url cause => some cause.text
  | .decode _ cause => some cause.text
  | _ => none

def status? : ApiError → Option Nat
  | .status _ code _ => some code
  | _ => none

/-- The cloud refused the credentials. -/
def isUnauthorized (e : ApiError) : Bool := e.status? = some 401 || e.status? = some 403

/-- The cloud could not be reached, or failed on its side. -/
def isUnavailable : ApiError → Bool
  | .transport _ => true
  | .status _ code _ => 500 ≤ code && code ≤ 599
  | _ => false

end ApiError

/-- A failure with what was being done when it arose, outermost first. -/
structure Failure where
  contexts : List String := []
  cause : ApiError ⊕ String
deriving DecidableEq, Repr

namespace Failure

def ofApi (e : ApiError) : Failure := ⟨[],.inl e⟩

def ofText (s : String) : Failure := ⟨[],.inr s⟩

/-- The API error behind the failure, if there is one. -/
def api? (f : Failure) : Option ApiError := f.cause.getLeft?

/-- The texts of the failure and of everything that led to it. -/
def chain (f : Failure) : List String :=
  f.contexts ++ match f.cause with
    | .inl e => e.message :: e.cause?.toList
    | .inr s => [s]

def text (f : Failure) : String := String.intercalate ": " f.chain

end Failure

end CloudMetrics.Cloud
