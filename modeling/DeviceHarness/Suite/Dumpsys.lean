import DeviceHarness.Checkin.Fetch
import DeviceHarness.Suite.Rig

/-! The suite that validates the dumps of the device. Formats are only checked on devices that are new
enough to have them. -/

namespace DeviceHarness.Dumpsys

def name : String := "dumpsys"
def tests : List String := ["procstats_output", "batterystats_output"]

/-- Fetches and validates a dump, if the device has the API level for it. -/
def check (rig : Rig) (format : Checkin.Format) (neededLevel : Nat) : Action Bench Verdict := do
  let level ← Bench.apiLevel
  if level < neededLevel then
    return .skipped (format.name ++ " checkin output needs API " ++ Integer.text neededLevel ++
      ", device is " ++ Integer.text level)
  else
    let _ ← Bench.onHost (Checkin.fetchAndVerify rig.adb format)
    return .passed

def runTest (rig : Rig) : String → Action Bench Verdict
  | "procstats_output" => check rig .procstats 19
  | "batterystats_output" => check rig .batterystats 21
  | test => unknownTest test

def suite (rig : Rig) : Suite (Station Unit) where
  name := name
  tests := tests
  setUp := pure ()
  runTest test := Station.onBench (runTest rig test)
  tearDown := pure ()
  clock := Station.clock

end DeviceHarness.Dumpsys
