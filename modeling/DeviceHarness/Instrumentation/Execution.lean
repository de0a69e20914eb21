import DeviceHarness.Adb.Client
import DeviceHarness.Instrumentation.Command
import DeviceHarness.Instrumentation.Output

/-! Runs of tests on a device. That tests fail is a result like any other, unless they are expected
to pass. -/

namespace DeviceHarness.Instrumentation

namespace Command

/-- Runs the tests and reads what they print. -/
def run (c : Command) (adb : Adb) : Action Host Run := do
  return .ofOutput (← adb.shellText c.line)

/-- The run of tests that are expected to pass. -/
def expectPass (c : Command) (run : Run) : Except Error Run :=
  if run.passed then .ok run
  else .error (.assertion ("device tests failed for " ++ c.target ++ ": " ++ run.summary))

def runExpectingPass (c : Command) (adb : Adb) : Action Host Run := do
  Action.ofResult (c.expectPass (← c.run adb))

end Command
end DeviceHarness.Instrumentation
