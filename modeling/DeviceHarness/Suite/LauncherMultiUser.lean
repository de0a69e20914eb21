import DeviceHarness.Suite.Rig
import DeviceHarness.Users

/-! The suite for launchers on a device with several users: a launcher must not see the apps of a user
that is not a profile of its own. Each test gets a new secondary user, which is removed after it. -/

namespace DeviceHarness.LauncherMultiUser

def name : String := "launcher-multi-user"
def profileTest : String := "get_activities_for_non_profile_fails"
def callbackTest : String := "no_launcher_callback_package_added_secondary_user"
def tests : List String := [profileTest, callbackTest]

def liveTvFeature : String := "android.software.live_tv"

def simplePackage : String := "com.android.cts.launcherapps.simpleapp"
def simpleApk : String := "CtsSimpleApp.apk"
def testPackage : String := "com.android.cts.launchertests"
def testClass : String := "com.android.cts.launchertests.LauncherAppsTests"
def testApk : String := "CtsLauncherAppsTests.apk"
def supportPackage : String := "com.android.cts.launchertests.support"
def supportApk : String := "CtsLauncherAppsTestsSupport.apk"

/-- The first API level with several launchers. -/
def neededLevel : Nat := 21

/-- The service that listens for new packages gives no sign once it has begun to. -/
def serviceSettles : Duration := Duration.seconds 5

def serviceCommand : String :=
  "am startservice --user " ++ Integer.text Users.owner ++ " -a " ++ supportPackage ++
    ".REGISTER_CALLBACK " ++ supportPackage ++ "/.LauncherCallbackTestsService"

/-- What the set-up found out. -/
structure Memory where
  created : List Int
  multiUser : Bool
  liveTv : Bool
  /-- The serial number of the secondary user. -/
  serial : Option Int
  deriving Repr, DecidableEq

def Memory.start : Memory := ⟨[], false, false, none⟩

/-- Why the device cannot run the tests. -/
def Memory.skipReason? (memory : Memory) : Option String :=
  if !memory.multiUser then some "multiple users not supported"
  else if memory.liveTv then some ("device has " ++ liveTvFeature)
  else none

abbrev Work := Action (Station Memory)

/-- Work with users. -/
def onUsers {α : Type} (work : Action UserWork α) : Work α :=
  work.within (fun station => ⟨station.bench.host, station.memory.created⟩)
    fun users station =>
      ⟨{ station.bench with host := users.host }, { station.memory with created := users.created }⟩

def users (rig : Rig) : UserManager := ⟨rig.adb, rig.settings.wait⟩

def uninstallApps (rig : Rig) : Action Host Unit := do
  rig.uninstall testPackage
  rig.uninstall supportPackage
  rig.uninstall simplePackage

def installApps (rig : Rig) : Action Bench Unit := do
  Bench.onHost (uninstallApps rig)
  let apps ← TestApps.find
  rig.installApp apps testApk
  rig.installApp apps supportApk

/-- Whether the device can have several users and is new enough. -/
def supported (rig : Rig) : Action Bench Bool := do
  if ← Bench.onHost (users rig).supportsMultiple then return neededLevel ≤ (← Bench.apiLevel)
  else return false

/-- Creates and starts the secondary user. -/
def addUser (rig : Rig) : Work Unit := do
  let id ← onUsers (users rig).create
  let serial ← Station.onHost ((users rig).serialNumber id)
  Station.remember fun memory => { memory with serial := some serial }
  Station.onHost ((users rig).start id)

def setUp (rig : Rig) : Work Unit := do
  let multiUser ← Station.onBench (supported rig)
  Station.remember fun memory => { memory with multiUser := multiUser }
  let hasLiveTv ← Station.onHost (Device.hasFeatures rig.adb [liveTvFeature])
  Station.remember fun memory => { memory with liveTv := hasLiveTv }
  if multiUser then
    onUsers (users rig).removeAllSecondary
    Station.onBench (installApps rig)
    addUser rig

/-- The device test that is told the secondary user. -/
def command (rig : Rig) (method : String) (serial : Int) : Instrumentation.Command :=
  ((((rig.instrumentation testPackage).withClass testClass).withMethod method).withUser
    Users.owner).withParam ("-e testUser " ++ Integer.text serial)

/-- Runs a device test while the simple app is installed. -/
def runAgainstUser (rig : Rig) (method : String) : Work Verdict := do
  match (← Station.remembered).serial with
  | none => throw (.harness "no secondary user")
  | some serial => Station.onBench do
    let apps ← TestApps.find
    rig.installApp apps simpleApk
    let result ← (Bench.onHost ((command rig method serial).runExpectingPass rig.adb)).outcome
    let _ ← (Bench.onHost (rig.uninstall simplePackage)).outcome
    let _ ← Action.ofResult result
    return .passed

def startService (rig : Rig) : Action Host Unit := do
  let _ ← rig.adb.shellText serviceCommand
  rig.settings.wait.settle serviceSettles

def runTest (rig : Rig) (test : String) : Work Verdict := do
  if !tests.contains test then unknownTest test
  else match (← Station.remembered).skipReason? with
    | some reason => return .skipped reason
    | none =>
      if test = profileTest then runAgainstUser rig "testGetActivitiesForUserFails"
      else do
        Station.onHost (startService rig)
        runAgainstUser rig "testNoPackageAddedCallbackForUser"

def tearDown (rig : Rig) : Work Unit := do
  if (← Station.remembered).multiUser then
    onUsers (users rig).tearDown
    Station.remember fun memory => { memory with serial := none }
    Station.onHost (uninstallApps rig)

def suite (rig : Rig) : Suite (Station Memory) where
  name := name
  tests := tests
  setUp := setUp rig
  runTest := runTest rig
  tearDown := tearDown rig
  clock := Station.clock

end DeviceHarness.LauncherMultiUser
