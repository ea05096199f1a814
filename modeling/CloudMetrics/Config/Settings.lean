import CloudMetrics.Collect.Kind
import CloudMetrics.Config.Flags
import CloudMetrics.Config.Listen
import CloudMetrics.Config.Toml
import CloudMetrics.Service.Route

/-!
# Settings

Settings come in layers: defaults, a file, the environment, and flags. The flags are merged into what
the other layers give; only then is the whole looked at.
-/
namespace CloudMetrics.Config

open Collect

structure Settings where
  token : String := ""
  secret : String := ""
  /-- The address to listen at. -/
  webaddr : String := "0.0.0.0:9542"
  /-- The path of the metrics. -/
  webpath : String := "/metrics"
  zones : List String := Cloud.defaultZones
  apiRootUrl : String := "https://secure.sakura.ad.jp/cloud/zone"
  apiTimeoutSecs : Nat := 20
  disabledCollectors : List String := []
  debug : Bool := false
deriving DecidableEq, Repr, Inhabited

inductive SettingsError where
  /-- The file is missing, or it is no document. -/
  | unreadable
  /-- A value has another type than its setting. -/
  | mistyped
  | noToken
  | noSecret
  | noZones
  | pathWithoutSlash (path : String)
  | pathTaken (path : String)
  | listenAddress (address : String)
  | zeroTimeout
  | unknownCollector (name : String)
deriving DecidableEq, Repr

def SettingsError.message : SettingsError → String
  | .unreadable => "Failed to read configuration"
  | .mistyped => "Invalid configuration"
  | .noToken => "an API access token is required (--token or SAKURACLOUD_ACCESS_TOKEN)"
  | .noSecret => "an API access token secret is required (--secret or SAKURACLOUD_ACCESS_TOKEN_SECRET)"
  | .noZones => "at least one zone must be configured"
  | .pathWithoutSlash path => "metrics path must start with '/': " ++ path
  | .pathTaken path => "metrics path collides with a built-in route: " ++ path
  | .listenAddress address => "invalid listen address: " ++ address
  | .zeroTimeout => "API timeout must be positive"
  | .unknownCollector name =>
    "unknown collector '" ++ name ++ "', expected one of: " ++ String.intercalate ", " (Kind.all.map Kind.name)

/-- The names of variables that are settings start with this, in any case. -/
def variableStem : String := "sakuracloud_exporter_"

/-- Settings whose variables hold lists. -/
def listNames : List String := ["zones","disabled_collectors"]

/-- The value of a variable: a truth value or a number if it reads as one, and then the text. -/
def readVariable (name value : String) : Value :=
  if lower value = "true" then .bool true
  else if lower value = "false" then .bool false
  else match readInt? value, Decimal.read? value with
    | some n, _ => .int n
    | none, some x => .float x
    | none, none =>
      if listNames.contains name then .list ((splitCommas value).map .text) else .text value

/-- The settings among the variables of the environment. -/
def environmentEntries (env : Environment) : List (String × Value) :=
  env.filterMap fun (name,value) =>
    let name := lower name
    if name.startsWith variableStem then
      let name := String.ofList (name.toList.drop variableStem.length)
      some (name,readVariable name value)
    else none

/-- A setting in a table of values, or its default. -/
def setting {α : Type} (v : Value) (name : String) (read : Value → Option α) (default : α) : Option α :=
  match v.member? name with
  | none => some default
  | some x => read x

namespace Settings

def ofValue? (v : Value) : Option Settings := do
  let d : Settings := {}
  return {
    token := ← setting v "token" Value.asText? d.token
    secret := ← setting v "secret" Value.asText? d.secret
    webaddr := ← setting v "webaddr" Value.asText? d.webaddr
    webpath := ← setting v "webpath" Value.asText? d.webpath
    zones := ← setting v "zones" Value.asTexts? d.zones
    apiRootUrl := ← setting v "api_root_url" Value.asText? d.apiRootUrl
    apiTimeoutSecs := ← setting v "api_timeout_secs" Value.asNat? d.apiTimeoutSecs
    disabledCollectors := ← setting v "disabled_collectors" Value.asTexts? d.disabledCollectors
    debug := ← setting v "debug" Value.asBool? d.debug }

/-- Defaults, the document if there is one, and the environment over it. -/
def ofLayers (document : Option (List (String × Value))) (env : Environment) : Except SettingsError Settings :=
  let root := (Value.table []).overlay (document.getD [])
  match ofValue? (root.overlay (environmentEntries env)) with
  | some s => .ok s
  | none => .error .mistyped

/-- Names with the new ones among others at the end. -/
def addNames (names others : List String) : List String :=
  others.foldl (fun ns n => if ns.contains n then ns else ns ++ [n]) names

/-- Zones without blanks around them, and without empty ones. -/
def tidyZones (zones : List String) : List String := (zones.map Text.trim).filter (· ≠ "")

/-- A flag that is given wins; collectors are disabled in addition. -/
def withFlags (s : Settings) (f : Flags) : Settings :=
  { token := f.token.getD s.token
    secret := f.secret.getD s.secret
    webaddr := f.webaddr.getD s.webaddr
    webpath := f.webpath.getD s.webpath
    zones := tidyZones (if f.zones.isEmpty then s.zones else f.zones)
    apiRootUrl := f.apiRootUrl.getD s.apiRootUrl
    apiTimeoutSecs := f.apiTimeoutSecs.getD s.apiTimeoutSecs
    disabledCollectors := addNames s.disabledCollectors f.disableCollector
    debug := s.debug || f.debug }

/-- The first thing that is wrong with the settings. -/
def fault? (s : Settings) : Option SettingsError :=
  if s.token = "" then some .noToken
  else if s.secret = "" then some .noSecret
  else if s.zones = [] then some .noZones
  else if s.webpath.toList.head? ≠ some '/' then some (.pathWithoutSlash s.webpath)
  else if (Service.ownRoutes.lookup s.webpath).isSome then some (.pathTaken s.webpath)
  else if (readSocketAddress? s.webaddr).isNone then some (.listenAddress s.webaddr)
  else if s.apiTimeoutSecs = 0 then some .zeroTimeout
  else (s.disabledCollectors.find? fun n => !Kind.isKnown n).map .unknownCollector

def timeoutMillis (s : Settings) : Nat := 1000*s.apiTimeoutSecs

/-- The document in the file that the flags name, if they name one. -/
def readFile (files : String → Option String) (f : Flags) :
    Except SettingsError (Option (List (String × Value))) :=
  match f.config with
  | none => .ok none
  | some path =>
    match (files path).bind Toml.read? with
    | some document => .ok (some document)
    | none => .error .unreadable

/-- The settings from all layers. -/
def load (files : String → Option String) (env : Environment) (f : Flags) : Except SettingsError Settings := do
  let document ← readFile files f
  let settings := (← ofLayers document env).withFlags f
  match settings.fault? with
  | some fault => throw fault
  | none => return settings

end Settings

end CloudMetrics.Config
