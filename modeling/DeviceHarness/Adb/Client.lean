import DeviceHarness.Host.Basic

/-! The `adb` client, the only way to the device. -/

namespace DeviceHarness

structure Adb where
  program : String
  /-- Which device to talk to, when there may be several. -/
  serial : Option String
  deriving Repr, DecidableEq

namespace Adb

/-- The arguments of a request to the chosen device. -/
def arguments (adb : Adb) (request : List String) : List String :=
  match adb.serial with
  | some serial => "-s" :: serial :: request
  | none => request

def request (adb : Adb) (args : List String) : Action Host Completion :=
  Host.run adb.program (adb.arguments args)

def shell (adb : Adb) (command : String) : Action Host Completion := adb.request ["shell", command]

/-- What a shell command printed. -/
def shellText (adb : Adb) (command : String) : Action Host String := do
  let completion ← adb.shell command
  Action.ofResult (completion.answer command)

def push (adb : Adb) (file remote : String) : Action Host Completion :=
  adb.request ["push", file, remote]

def pull (adb : Adb) (remote file : String) : Action Host Completion :=
  adb.request ["pull", remote, file]

/-- Installs an APK in place of an older one. -/
def install (adb : Adb) (apk : String) : Action Host Unit := do
  let completion ← adb.request ["install", "-r", apk]
  Action.ofResult completion.requireDone

def uninstall (adb : Adb) (package : String) : Action Host Unit := do
  let completion ← adb.request ["uninstall", package]
  Action.ofResult completion.requireDone

/-- The serial in a line of the device listing. Lines of devices mention the word. -/
def listedSerial? (line : List Char) : Option String :=
  if Text.occurs "device".toList line then
    (Text.fieldsAt Text.isAsciiBlank line).head?.map String.ofList
  else none

/-- The serials in a device listing, whose first line is a heading. -/
def listedSerials (listing : String) : List String :=
  ((Text.pieces (· == '\n') listing.toList).drop 1).filterMap listedSerial?

/-- The serials of the connected devices, of which there has to be one. -/
def connectedDevices (adb : Adb) : Action Host (List String) := do
  let completion ← Host.run adb.program ["devices", "-l"]
  match listedSerials completion.out with
  | [] => throw .noDevice
  | serials => return serials

end Adb
end DeviceHarness
