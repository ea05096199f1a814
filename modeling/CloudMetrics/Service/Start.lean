import CloudMetrics.Cloud.Client
import CloudMetrics.Config.Settings
import CloudMetrics.Service.Log
import CloudMetrics.Service.Site

/-!
# Starting

The settings are loaded, a client is made, and the cloud must accept the credentials before anything
is served. A start that fails names its outermost cause.
-/
namespace CloudMetrics.Service

open Cloud Collect Config Time

/-- The name and the version of this program. -/
def programName : String := "sakuracloud-exporter"

def version : String := "0.1.0"

inductive StartError where
  | settings (cause : SettingsError)
  | client (cause : ApiError)
  | credentials (cause : ApiError)
  | route (cause : RouteError)
  | listen (cause : BindError)
deriving DecidableEq, Repr

namespace StartError

def message : StartError → String
  | .settings cause => cause.message
  | .client _ => "Failed to create API client"
  | .credentials _ => "Failed to verify API credentials"
  | .route _ => "invalid route"
  | .listen cause => cause.message

/-- A path of the metrics that is no route breaks the program off. -/
def exitCode : StartError → Nat
  | .route _ => 101
  | _ => 1

end StartError

/-- A start: the calls made and the events logged on the way, and how it ended. -/
structure Startup where
  calls : List Call := []
  log : List LogEvent := []
  result : Except StartError Site

def clientSettings (s : Settings) : ClientSettings :=
  { rootUrl := s.apiRootUrl, token := s.token, secret := s.secret, timeoutMillis := s.timeoutMillis }

/-- The site of an account whose credentials have been accepted. -/
def openSite (s : Settings) (account : String) (now : Instant) : Except StartError Site := do
  let collectors := { CollectorSet.build s.disabledCollectors s.zones account with source := s.webaddr }
  let site ← (Site.new collectors s.webpath).mapError .route
  let site := { site with
    health := site.health.credentialsVerified now
    counters := site.counters.setVersion version }.registerCollectors now
  (bind s.webaddr).mapError .listen
  return { site with health := site.health.markReady }

/-- Starts with some settings, against the cloud behind a client. -/
def start (s : Settings) (network : Network) (now : Instant) : Startup :=
  match Client.new (clientSettings s) with
  | .error e => { result := .error (.client e) }
  | .ok client =>
    match client.api network .authStatus with
    | .error e => { calls := [.authStatus], result := .error (.credentials e) }
    | .ok auth =>
      { calls := [.authStatus]
        log := [.started version auth.account.id s.zones]
        result := openSite s auth.account.id now }

/-- The event of a stop on request. -/
def stopped : LogEvent := .stopped "SIGINT received"

/-- How a command line goes on: it ends the program at once, or it gives settings. -/
inductive Launch where
  | usage (e : UsageError)
  | refused (e : StartError)
  | settings (s : Settings)

def launch (files : String → Option String) (env : Environment) (words : List String) : Launch :=
  match Flags.ofWords words env with
  | .error e => .usage e
  | .ok flags =>
    match Settings.load files env flags with
    | .error e => .refused (.settings e)
    | .ok s => .settings s

/-- What a usage error prints to standard output, where that is fixed: the version. -/
def usageOutput : UsageError → List String
  | .displayVersion => [programName ++ " " ++ version]
  | _ => []

end CloudMetrics.Service
