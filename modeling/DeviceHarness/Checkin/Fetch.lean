import DeviceHarness.Adb.Client
import DeviceHarness.Checkin.Validator

/-! Dumps taken from a device. -/

namespace DeviceHarness.Checkin

/-- Has the device dump its statistics, and validates the dump. -/
def fetchAndVerify (adb : Adb) (format : Format) : Action Host Report := do
  Action.ofResult (verify format (← adb.shellText format.command))

end DeviceHarness.Checkin
