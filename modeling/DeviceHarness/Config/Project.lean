import DeviceHarness.Config.Section
import DeviceHarness.Install.AbiSplits
import DeviceHarness.Instrumentation.Command
import DeviceHarness.Toml.Document
import DeviceHarness.Wait

/-! The configuration file of a project: how to reach the device, and the settings of the harness.
Everything in it is optional, but what is there has to be of the right type. -/

namespace DeviceHarness

/-- How to run the client of the device. -/
structure AdbSettings where
  serial : Option String
  executable : Option String
  deriving Repr, DecidableEq

structure DeviceSettings where
  /-- Whether the device may be used at all. -/
  canAdb : Bool
  adb : Option AdbSettings
  deriving Repr, DecidableEq

structure HarnessSettings where
  /-- The folder of the test APKs, relative to that of the project. -/
  apkDir : Option String
  /-- The ABI to install for; the device decides when there is none. -/
  abi : Option String
  runner : String
  wait : WaitPolicy
  splits : AbiSplits
  /-- Whether to run suites without asking the device first whether it is ready. -/
  skipPreconditions : Bool
  deriving Repr, DecidableEq

def HarnessSettings.default : HarnessSettings :=
  ⟨none, none, Instrumentation.defaultRunner, .default, .default, false⟩

structure Config where
  file : String
  table : Toml.Table

namespace Config

/-- Reads the text of a configuration file. -/
def ofText (file text : String) : Except Error Config :=
  match Toml.document text with
  | .ok table => .ok ⟨file, table⟩
  | .error line => .error (.invalidConfig file (Toml.complaint line))

def root (c : Config) : Section := ⟨c.file, [], c.table⟩

def adbSettings (s : Section) : Except Error AdbSettings := do
  let serial ← s.optionalString "serial"
  let executable ← s.optionalString "executable"
  return ⟨serial, executable⟩

def device (c : Config) : Except Error DeviceSettings := do
  let canAdb := c.root.switch "can-adb" true
  match ← c.root.optionalSection "device" with
  | none => return ⟨canAdb, none⟩
  | some device =>
    match ← device.optionalSection "adb" with
    | none => return ⟨canAdb, none⟩
    | some adb => return ⟨canAdb, some (← adbSettings adb)⟩

/-- A duration that the section gives as a number of units, or the one it has by default. -/
def durationOr (s : Section) (key : String) (unit : Nat → Duration) (default : Duration) :
    Except Error Duration := do
  match ← s.optionalInteger key with
  | none => return default
  | some n => if 0 ≤ n then return unit n.toNat else throw (s.invalidKey key "non-negative int")

def waitPolicy (s : Section) : Except Error WaitPolicy := do
  let timeout ← durationOr s "timeout-secs" Duration.seconds WaitPolicy.default.timeout
  let initial ← durationOr s "initial-interval-ms" Duration.milliseconds WaitPolicy.default.initial
  let max ← durationOr s "max-interval-ms" Duration.milliseconds WaitPolicy.default.max
  return ⟨timeout, initial, max⟩

/-- The settings that the section `harness` gives. -/
def harnessSection (s : Section) : Except Error HarnessSettings := do
  let apkDir ← s.optionalString "apk-dir"
  let abi ← s.optionalString "abi"
  let runner ← s.optionalString "instrumentation-runner"
  let wait ← match ← s.optionalSection "wait" with
    | none => pure WaitPolicy.default
    | some wait => waitPolicy wait
  return { HarnessSettings.default with
    apkDir := apkDir
    abi := abi
    runner := runner.getD Instrumentation.defaultRunner
    wait := wait
    skipPreconditions := s.switch "skip-preconditions" false }

/-- Every key of the section with its text. -/
def allStrings (s : Section) : List String → Except Error (List (String × String))
  | [] => .ok []
  | key :: rest => do
    let text ← s.requiredString key
    let more ← allStrings s rest
    return (key, text) :: more

/-- The settings of the harness. The ABI splits are replaced as a whole. -/
def harness (c : Config) : Except Error HarnessSettings := do
  let settings ← match ← c.root.optionalSection "harness" with
    | none => pure HarnessSettings.default
    | some s => harnessSection s
  match ← c.root.optionalSection "abi-splits" with
  | none => return settings
  | some splits => return { settings with splits := .ofList (← allStrings splits splits.keys) }

end Config
end DeviceHarness
