import CloudMetrics.Config.Value

/-!
# Command-line flags

Flags are read from left to right. An option waits for its value, and the value is looked at when the
next known option comes or the words end; an unknown word, or a switch with a value, is an error at once.
A value after an equals sign is looked at at once.
-/
namespace CloudMetrics.Config

open Text

/-- What the flags say. -/
structure Flags where
  config : Option String := none
  token : Option String := none
  secret : Option String := none
  webaddr : Option String := none
  webpath : Option String := none
  zones : List String := []
  apiRootUrl : Option String := none
  apiTimeoutSecs : Option Nat := none
  disableCollector : List String := []
  debug : Bool := false
deriving DecidableEq, Repr, Inhabited

/-- Why the flags are not taken. Asking for help or for the version ends the program too. -/
inductive UsageError where
  | unknownArgument
  /-- A value is missing, or empty where it must not be. -/
  | invalidValue
  /-- A value is no number. -/
  | valueValidation
  | argumentConflict
  | tooManyValues
  | displayHelp
  | displayVersion
deriving DecidableEq, Repr

def UsageError.exitCode : UsageError → Nat
  | .displayHelp | .displayVersion => 0
  | _ => 2

/-- Options with a value. -/
inductive Opt where
  | config | token | secret | webaddr | webpath | zones | apiRootUrl | apiTimeoutSecs | disableCollector
deriving DecidableEq, Repr

def Opt.names : List (String × Opt) :=
  [("--config",.config),("--token",.token),("--secret",.secret),("--webaddr",.webaddr),
    ("--webpath",.webpath),("--zones",.zones),("--api-root-url",.apiRootUrl),
    ("--api-timeout-secs",.apiTimeoutSecs),("--disable-collector",.disableCollector)]

/-- The parts of a text between commas. -/
def splitCommas (s : String) : List String := (splitBy (· = ',') s.toList).map String.ofList

/-- An option that may stand once. -/
def once {α : Type} (old : Option α) (value : α) : Except UsageError (Option α) :=
  match old with
  | some _ => .error .argumentConflict
  | none => .ok (some value)

namespace Flags

/-- Takes the value of an option. -/
def take (f : Flags) (o : Opt) (value : String) : Except UsageError Flags :=
  match o with
  | .config => do
    let config ← once f.config value
    if value = "" then throw .invalidValue
    return { f with config }
  | .token => do return { f with token := ← once f.token value }
  | .secret => do return { f with secret := ← once f.secret value }
  | .webaddr => do return { f with webaddr := ← once f.webaddr value }
  | .webpath => do return { f with webpath := ← once f.webpath value }
  | .apiRootUrl => do return { f with apiRootUrl := ← once f.apiRootUrl value }
  | .apiTimeoutSecs =>
    if f.apiTimeoutSecs.isSome then .error .argumentConflict
    else match readNat? value with
      | none => .error .valueValidation
      | some n => .ok { f with apiTimeoutSecs := some n }
  | .zones => .ok { f with zones := f.zones ++ splitCommas value }
  | .disableCollector => .ok { f with disableCollector := f.disableCollector ++ splitCommas value }

/-- An option that waits for its value, and the value once it has come. -/
abbrev Pending := Option (Opt × Option String)

/-- Looks at what waits. -/
def flush (f : Flags) : Pending → Except UsageError Flags
  | none => .ok f
  | some (_,none) => .error .invalidValue
  | some (o,some value) => f.take o value

/-- The name and the value of a word with an equals sign. -/
def cutEquals (w : String) : String × Option String :=
  match w.toList.dropWhile (· ≠ '=') with
  | _ :: r => (String.ofList (w.toList.takeWhile (· ≠ '=')),some (String.ofList r))
  | [] => (w,none)

/-- Switches among the flags. -/
inductive Switch where
  | debug | help | version
deriving DecidableEq, Repr

def Switch.names : List (String × Switch) :=
  [("--debug",.debug),("--help",.help),("--version",.version)]

def turn (f : Flags) : Switch → Except UsageError Flags
  | .debug => if f.debug then .error .argumentConflict else .ok { f with debug := true }
  | .help => .error .displayHelp
  | .version => .error .displayVersion

/-- The short switches. -/
def shortSwitch? (w : String) : Option Switch :=
  match w.toList with
  | '-' :: 'h' :: _ => some .help
  | '-' :: 'V' :: _ => some .version
  | _ => none

/-- Reads the words that are left. -/
def read (f : Flags) (pending : Pending) : List String → Except UsageError Flags
  | [] => f.flush pending
  | w :: ws =>
    if w = "--" then if ws.isEmpty then f.flush pending else .error .unknownArgument
    else if w.startsWith "--" then
      let (name,value) := cutEquals w
      match Opt.names.lookup name, Switch.names.lookup name with
      | some o, _ => do
        let f ← f.flush pending
        match value with
        | some v => read (← f.take o v) none ws
        | none => read f (some (o,none)) ws
      | none, some s => do
        if value.isSome then throw .tooManyValues
        let f ← f.flush pending
        read (← f.turn s) none ws
      | none, none => .error .unknownArgument
    else if w.startsWith "-" && w ≠ "-" then
      match shortSwitch? w with
      | some s => do
        let f ← f.flush pending
        read (← f.turn s) none ws
      | none => .error .unknownArgument
    else
      match pending with
      | some (o,none) => read f (some (o,some w)) ws
      | _ => .error .unknownArgument

end Flags

/-- Variables of the environment, by name. -/
abbrev Environment := List (String × String)

/-- The flags of a command line; three of them may come from the environment instead. -/
def Flags.ofWords (words : List String) (env : Environment) : Except UsageError Flags := do
  let f ← Flags.read {} none words
  let config := f.config <|> env.lookup "SAKURACLOUD_EXPORTER_CONFIG"
  if config = some "" then throw .invalidValue
  return { f with
    config
    token := f.token <|> env.lookup "SAKURACLOUD_ACCESS_TOKEN"
    secret := f.secret <|> env.lookup "SAKURACLOUD_ACCESS_TOKEN_SECRET" }

end CloudMetrics.Config
