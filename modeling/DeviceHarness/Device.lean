import DeviceHarness.Adb.Client
import DeviceHarness.Reply.Features

/-! Questions about the device itself. -/

namespace DeviceHarness.Device

/-- A system property, empty when it is not set. -/
def property (adb : Adb) (name : String) : Action Host String := do
  let completion ← adb.shell ("getprop " ++ name)
  let completion ← Action.ofResult completion.requireSuccess
  return Text.trim completion.out

/-- The API level that the device reports. -/
def apiLevel (adb : Adb) : Action Host Nat := do
  let level ← property adb "ro.build.version.sdk"
  match Integer.unsigned? 32 level with
  | some level => return level
  | none => throw (.generic ("invalid api level `" ++ level ++ "`"))

/-- The ABI that the device prefers. -/
def primaryAbi (adb : Adb) : Action Host String := do
  let abi ← property adb "ro.product.cpu.abi"
  if abi.isEmpty then throw (.generic "device reports no primary ABI") else return abi

def features (adb : Adb) : Action Host NameSet := do
  Action.ofResult (Reply.features (← adb.shellText "pm list features"))

/-- Whether the device has all of these features. -/
def hasFeatures (adb : Adb) (required : List String) : Action Host Bool := do
  let features ← features adb
  return required.all features.contains

end DeviceHarness.Device
