import DeviceHarness.Bench
import DeviceHarness.Reply.Success

/-! Test apps: where their APKs are, and how a single one is installed and uninstalled. -/

namespace DeviceHarness

/-- The folder of the test APKs. -/
structure TestApps where
  dir : String
  deriving Repr, DecidableEq

namespace TestApps

def find : Action Bench TestApps := do
  return ⟨← Bench.apkDir⟩

/-- The path of an APK, which has to exist. -/
def apk (apps : TestApps) (name : String) (h : Host) : Except Error String :=
  let path := Path.join apps.dir name
  if h.present path then .ok path else .error (.missingFile path)

end TestApps

namespace Install

/-- Where files wait on the device until a command takes them. -/
def stagingDir : String := "/data/local/tmp"

def staged (name : String) : String := stagingDir ++ "/" ++ name

def apkName (apk : String) : Except Error String :=
  match Path.fileName? apk with
  | some name => .ok name
  | none => .error (.generic ("invalid APK path " ++ apk))

/-- Copies a file to the device. -/
def pushFile (adb : Adb) (file remote : String) : Action Host Unit := do
  let completion ← adb.push file remote
  if completion.succeeded then return ()
  else throw (.pushFailed (file ++ " to " ++ remote ++ ": " ++ Text.trim completion.err))

/-- The command that installs a file on the device for one user. -/
def userCommand (user : Int) (remote : String) : String :=
  "pm install --user " ++ Integer.text user ++ " " ++ remote

/-- Installs an APK for one user only. -/
def forUser (adb : Adb) (apk : String) (user : Int) : Action Host Unit := do
  let name ← Action.ofResult (apkName apk)
  let remote := staged name
  pushFile adb apk remote
  let reply ← adb.shellText (userCommand user remote)
  if Reply.hasSuccessLine reply then return ()
  else throw (.assertion ("failed to install " ++ apk ++ " for user " ++ Integer.text user ++ ": " ++
    Text.trim reply))

def listCommand (package : String) : String := "pm list packages " ++ package

/-- Whether a listing has the package itself. Listings also show packages whose names contain the
one that was asked for. -/
def lists (listing package : String) : Bool :=
  (Text.lines listing).any fun line =>
    Text.after? "package:".toList (Text.trimmed line.toList) == some package.toList

def isInstalled (adb : Adb) (package : String) : Action Host Bool := do
  let listing ← adb.shellText (listCommand package)
  return lists listing package

/-- Uninstalls a package if it is there. -/
def uninstall (adb : Adb) (package : String) : Action Host Unit := do
  if ← isInstalled adb package then adb.uninstall package

end Install
end DeviceHarness
