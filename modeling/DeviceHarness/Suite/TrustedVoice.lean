import DeviceHarness.Suite.Rig

/-! The suite for trusted voice: an activity that dismisses the keyguard runs, and logs, on a locked
device. -/

namespace DeviceHarness.TrustedVoice

def name : String := "trusted-voice"
def package : String := "android.trustedvoice.app"
def apk : String := "CtsTrustedVoiceApp.apk"
def activity : String := "TrustedVoiceActivity"
def tests : List String := ["logcat"]

/-- What the activity logs. -/
def message : String := "TrustedVoiceTestString"

def clearCommand : String := "logcat -c"

/-- Presses the power key, which locks the device. -/
def lockCommand : String := "input keyevent 26"

def startCommand : String :=
  "am start -W -a android.intent.action.MAIN -n " ++ package ++ "/" ++ package ++ "." ++ activity

def dumpCommand : String := "logcat -v brief -d " ++ activity ++ ":I '*:S'"

/-- What a line of the log says: the part between its first and its second colon. -/
def said? (line : String) : Option String :=
  ((Text.pieces (· == ':') line.toList)[1]?).map fun part => String.ofList (Text.trimmed part)

/-- What the first line says that mentions the message. -/
def found? (log : String) : Option String :=
  ((Text.lines log).find? (Text.contains message)).bind said?

/-- Whether the log has the message. -/
def judge (log : String) : Except Error Verdict :=
  let found := (found? log).getD ""
  if found = message then .ok .passed
  else
    .error (.assertion ("test string does not match, expected \"" ++ message ++ "\" but found \"" ++
      found ++ "\""))

def logcat (adb : Adb) : Action Host Verdict := do
  let _ ← adb.shellText clearCommand
  let _ ← adb.shellText lockCommand
  let _ ← adb.shellText startCommand
  Action.ofResult (judge (← adb.shellText dumpCommand))

def runTest (rig : Rig) : String → Action Host Verdict
  | "logcat" => logcat rig.adb
  | test => unknownTest test

def suite (rig : Rig) : Suite (Station Unit) where
  name := name
  tests := tests
  setUp := Station.onBench (rig.reinstallApp package apk)
  runTest test := Station.onHost (runTest rig test)
  tearDown := Station.onHost (rig.uninstall package)
  clock := Station.clock

end DeviceHarness.TrustedVoice
