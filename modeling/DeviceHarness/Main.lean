import DeviceHarness.CommandLine.Program

/-! The command line itself. The host is what can be seen without starting a program: the environment,
and the files that the words of the line and the project name. Commands that need a device therefore
report that its client is missing; all others do their work. -/

namespace DeviceHarness.Main

/-- What this build knows about itself. -/
def build : CommandLine.Build := ⟨"0.4.0", "x86_64-unknown-linux-gnu", "unknown"⟩

/-- The variables that commands ask about. -/
def variableNames : List String :=
  [Host.projectVariable, Adb.serialVariable, Bench.apiLevelVariable, "HOSTCTS_PATH", "PATH", "HOME",
    "TMPDIR", "XDG_DATA_HOME", "RUST_LOG"]

def readVariables : List String → IO (Dictionary String)
  | [] => return []
  | name :: rest => do
    let others ← readVariables rest
    match ← IO.getEnv name with
    | some value => return Dictionary.insert name value others
    | none => return others

/-- What a path leads to: a file that can be read, or else a folder. -/
def node? (path : String) : IO (Option Node) := do
  try return some (.file (Text.ofBytes (← IO.FS.readBinFile path).toList))
  catch _ =>
    try
      let _ ← IO.FS.realPath path
      return some .folder
    catch _ => return none

/-- Adds what paths lead to. -/
def look (host : Host) : List String → IO Host
  | [] => return host
  | path :: rest => do
    let others ← look host rest
    match ← node? path with
    | some node => return others.place (Path.join host.workPath path) node
    | none => return others

/-- The host as far as the words of a command line need it. -/
def gather (words : List String) : IO Host := do
  let workdir := (← IO.currentDir).toString
  let environment ← readVariables variableNames
  let host : Host :=
    ⟨environment, none, .empty, Path.components workdir, fun _ _ => .silent, [], (← IO.monoNanosNow)⟩
  let host ← look host (workdir :: (host.envValue? Host.projectVariable).toList ++ words)
  look host host.configFile.toOption.toList

end DeviceHarness.Main

/-- Carries out a command line. -/
def main (words : List String) : IO UInt32 := do
  let host ← DeviceHarness.Main.gather words
  let (ended, _) := DeviceHarness.CommandLine.execute DeviceHarness.Main.build words host
  IO.print ended.printed
  IO.eprint ended.complaints
  return ended.status.toUInt32
