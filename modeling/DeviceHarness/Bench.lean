import DeviceHarness.Config.Project
import DeviceHarness.Device

/-! The bench: the host with the project on it, and what has been found out about them. The
configuration, the places of programs and the API level of the device are looked up once; what was
not found is looked up again the next time. -/

namespace DeviceHarness

/-- What was found out and is not looked up again. -/
structure Findings where
  apiLevel : Option Nat
  /-- The paths of programs under their names. -/
  programs : List (String × String)
  /-- The configuration, or that the project has none. -/
  config : Option (Option Config)

def Findings.none : Findings := ⟨Option.none, [], Option.none⟩

structure Bench where
  host : Host
  findings : Findings

namespace Bench

variable {α : Type}

def ofHost (host : Host) : Bench := ⟨host, .none⟩

/-- Work on the host alone. -/
def onHost (work : Action Host α) : Action Bench α :=
  work.within Bench.host fun host bench => { bench with host := host }

/-- A question that the host answers without being changed. -/
def ask (question : Host → Except Error α) : Action Bench α :=
  ExceptT.mk fun bench => (question bench.host, bench)

def look (view : Bench → α) : Action Bench α := ExceptT.mk fun bench => (.ok (view bench), bench)

def remember (change : Findings → Findings) : Action Bench Unit :=
  ExceptT.mk fun bench => (.ok (), { bench with findings := change bench.findings })

end Bench

/-! Programs. -/

namespace Host

/-- The path of a program, in the folders that the project names or else in those of the host. -/
def programPath? (h : Host) (name : String) : Option String :=
  h.findProgram ((h.envValue? "HOSTCTS_PATH").or (h.envValue? "PATH")) name

/-! Places of the project. -/

def requireVariable (h : Host) (name : String) : Except Error String :=
  match h.envValue? name with
  | some value => .ok value
  | none => .error (.missingVariable name)

def projectVariable : String := "HOSTCTS_PROJECT_HOME"

/-- The folder of the project. -/
def projectDir (h : Host) : Except Error String := do
  let home ← h.requireVariable projectVariable
  if h.present home then return home
  else throw (.generic (projectVariable ++ " set to " ++ home ++ ", but that directory doesn't exist"))

def projectChild (h : Host) (child : String) : Except Error String :=
  h.projectDir.map fun home => Path.join home child

def configFile (h : Host) : Except Error String := h.projectChild "hostcts.toml"

/-- The folder for data of the user that no project holds. -/
def userDataDir (h : Host) : Except Error String :=
  let below (folder : String) : String := Path.join folder "hostcts"
  match (h.envValue? "XDG_DATA_HOME").filter Path.isAbsolute, h.home? with
  | _, none => .error (.generic "failed to determine user directories")
  | some folder, _ => .ok (below folder)
  | none, some home => .ok (below (Path.join home ".local/share"))

/-- Where output goes: into the project, or to the user when there is no project. -/
def outputDir (h : Host) : Except Error String :=
  match h.projectChild "hostcts_out" with
  | .error (.missingVariable _) => h.userDataDir
  | result => result

def outputChild (h : Host) (child : String) : Except Error String :=
  h.outputDir.map fun folder => Path.join folder child

/-- The configuration of the project. No project is the same as a project without configuration. -/
def readConfig (h : Host) : Except Error (Option Config) :=
  match h.configFile with
  | .error (.missingVariable _) => .ok none
  | .error e => .error e
  | .ok file =>
    if h.present file then do
      let text ← h.readFile file
      return some (← Config.ofText file text)
    else .ok none

end Host

namespace Bench

/-- The path of a program, if the host has it. -/
def program? (name : String) : Action Bench (Option String) := do
  match ← look fun bench => bench.findings.programs.lookup name with
  | some path => return some path
  | none =>
    match ← look fun bench => bench.host.programPath? name with
    | none => return none
    | some path => do
      remember fun found => { found with programs := (name, path) :: found.programs }
      return some path

def program (name : String) : Action Bench String := do
  match ← program? name with
  | some path => return path
  | none => throw (.missingProgram name)

def config : Action Bench (Option Config) := do
  match ← look fun bench => bench.findings.config with
  | some config => return config
  | none => do
    let config ← ask Host.readConfig
    remember fun found => { found with config := some config }
    return config

/-- The settings of the harness: those of the project, or the default ones. -/
def harnessSettings : Action Bench HarnessSettings := do
  match ← config with
  | some config => Action.ofResult config.harness
  | none => return .default

/-- Where the test APKs are. -/
def apkDir : Action Bench String := do
  match (← harnessSettings).apkDir with
  | none => ask (·.projectChild "testcases")
  | some folder => if Path.isAbsolute folder then return folder else ask (·.projectChild folder)

end Bench

/-! The client for the device that the project is about. -/

namespace Adb

def serialVariable : String := "ANDROID_SERIAL"

/-- The client that the environment describes. -/
def ofEnvironment : Action Bench Adb := do
  let program ← Bench.program "adb"
  let serial ← Bench.look (·.host.envValue? serialVariable)
  return ⟨program, serial⟩

/-- The client that settings describe, where they say nothing the one of the environment. -/
def ofSettings (settings : AdbSettings) : Action Bench Adb := do
  let program ← match settings.executable with
    | some path => pure path
    | none => Bench.program "adb"
  let serial ← match settings.serial with
    | some serial => pure (some serial)
    | none => Bench.look (·.host.envValue? serialVariable)
  return ⟨program, serial⟩

def ofDevice (settings : DeviceSettings) : Action Bench Adb :=
  if !settings.canAdb then throw .adbDisabled
  else match settings.adb with
    | some adb => ofSettings adb
    | none => ofEnvironment

/-- The client that the project describes. Where no configuration can be read, the environment
describes it. -/
def find : Action Bench Adb := do
  match ← Bench.config.outcome with
  | .ok (some config) => do
    let settings ← Action.ofResult config.device
    ofDevice settings
  | _ => ofEnvironment

end Adb

namespace Bench

def apiLevelVariable : String := "HOSTCTS_ANDROID_API_LEVEL"

/-- An API level given in place of the one that the device reports. -/
def apiLevelOf (value : String) : Except Error Nat :=
  match Integer.unsigned? 32 (Text.trim value) with
  | some level => .ok level
  | none => .error (.generic ("invalid " ++ apiLevelVariable ++ " `" ++ value ++ "`"))

/-- The API level that the device reports. There is no level to fall back on. -/
def queryApiLevel (adb : Adb) : Action Host Nat := do
  match ← (Device.apiLevel adb).outcome with
  | .ok level => return level
  | .error e => throw (.device ("failed to determine API level: " ++ e.message))

/-- The API level of the device under test. -/
def apiLevel : Action Bench Nat := do
  match ← look (·.findings.apiLevel) with
  | some level => return level
  | none => do
    let level ← match ← look (·.host.envValue? apiLevelVariable) with
      | some value => Action.ofResult (apiLevelOf value)
      | none => do
        let adb ← Adb.find
        onHost (queryApiLevel adb)
    remember fun found => { found with apiLevel := some level }
    return level

end Bench
end DeviceHarness
