import DeviceHarness.Suite.Rig

/-! The suite for `run-as`: the host can run commands as an app that allows to be debugged. -/

namespace DeviceHarness.RunAs

def name : String := "run-as"
def package : String := "android.sample.app"
def apk : String := "CtsCppToolsApp.apk"
def tests : List String := ["run_as"]

def command : String := "run-as " ++ package ++ " id -u"

/-- The ids of apps are above this one. -/
def lastSystemId : Nat := 10000

/-- The digits of the user id, which the answer starts with. -/
def userId? (answer : List Char) : Option (List Char) := do
  let rest ← Text.after? "uid=".toList answer
  match rest.takeWhile Char.isDigit with
  | [] => none
  | digits => some digits

/-- Whether the answer is that of an app. -/
def judge (answer : String) : Except Error Verdict :=
  let answer := Text.trim answer
  match userId? answer.toList with
  | none =>
    .error (.assertion
      ("unexpected result returned by adb shell command: \"" ++ answer ++ "\""))
  | some digits =>
    let id := String.ofList digits
    if (Integer.unsigned? 32 id).any (lastSystemId < ·) then .ok .passed
    else .error (.assertion ("invalid app id " ++ id))

def runTest (rig : Rig) : String → Action Bench Verdict
  | "run_as" => do
    let answer ← Bench.onHost (rig.adb.shellText command)
    Action.ofResult (judge answer)
  | test => unknownTest test

def suite (rig : Rig) : Suite (Station Unit) where
  name := name
  tests := tests
  setUp := Station.onBench (rig.reinstallApp package apk)
  runTest test := Station.onBench (runTest rig test)
  tearDown := Station.onHost (rig.uninstall package)
  clock := Station.clock

end DeviceHarness.RunAs
