import DeviceHarness.Suite.Rig

/-! The preconditions of all suites: an app on the device finds out whether it is ready to be tested.
Suites may pass on a device that is not. -/

namespace DeviceHarness.Preconditions

def apk : String := "CtsPreconditionsApp.apk"
def package : String := "com.android.cts.preconditions"
def runner : String := "android.support.test.runner.AndroidJUnitRunner"

def command : Instrumentation.Command :=
  (Instrumentation.Command.forPackage package).withRunner runner

/-- What stands in the way. -/
structure Report where
  failures : List Instrumentation.TestCase
  /-- Why the run as a whole failed, if it did. -/
  runFailure : Option String
  deriving Repr, DecidableEq

namespace Report

def ofRun (run : Instrumentation.Run) : Report := ⟨run.failures, run.failure⟩

def met (r : Report) : Bool := r.failures.isEmpty && r.runFailure.isNone

end Report

/-- The path of the app. Why it cannot be found does not matter. -/
def locate (apps : TestApps) (h : Host) : Except Error String :=
  match apps.apk apk h with
  | .ok path => .ok path
  | .error _ => .error (.harness ("couldn't find " ++ apk ++ " to instrument"))

/-- Installs the app, runs it and uninstalls it. -/
def check (rig : Rig) : Action Bench Report := do
  let apps ← TestApps.find
  let path ← Bench.ask (locate apps)
  Bench.onHost do
    rig.adb.install path
    let result ← (command.run rig.adb).outcome
    let _ ← (rig.uninstall package).outcome
    return .ofRun (← Action.ofResult result)

end DeviceHarness.Preconditions
