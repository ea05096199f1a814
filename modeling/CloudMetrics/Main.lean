import CloudMetrics.Service.Start

/-!
# The command line

Flags, the environment and a file are read; the rest is up to the service. The program has no network
of its own, so every request is lost and a start goes no further than the credentials.
-/
namespace CloudMetrics

open Config Service

/-- The variables that are looked at. -/
def variableNames : List String :=
  ["SAKURACLOUD_ACCESS_TOKEN","SAKURACLOUD_ACCESS_TOKEN_SECRET"]
    ++ ["CONFIG","TOKEN","SECRET","WEBADDR","WEBPATH","ZONES","API_ROOT_URL","API_TIMEOUT_SECS",
      "DISABLED_COLLECTORS","DEBUG"].map ("SAKURACLOUD_EXPORTER_" ++ ·)

def readEnvironment : IO Environment :=
  variableNames.filterMapM fun name => do
    return (← IO.getEnv name).map fun value => (name,value)

/-- The text of the file that the flags name, if it can be read. -/
def readConfig (words : List String) (env : Environment) : IO (Option String) := do
  match Flags.ofWords words env with
  | .ok { config := some path, .. } =>
    try return some (← IO.FS.readFile path)
    catch _ => return none
  | _ => return none

/-- Prints the outermost message of a failed start. -/
def refuse (e : StartError) : IO UInt32 := do
  IO.eprintln ("Error: " ++ e.message)
  return UInt32.ofNat e.exitCode

end CloudMetrics

open CloudMetrics Config Service

def main (words : List String) : IO UInt32 := do
  let env ← readEnvironment
  let document ← readConfig words env
  match launch (fun _ => document) env words with
  | .usage e =>
    (usageOutput e).forM IO.println
    return UInt32.ofNat e.exitCode
  | .refused e => refuse e
  | .settings s =>
    match (start s (fun _ => .lost) .epoch).result with
    | .error e => refuse e
    | .ok _ => return 0
