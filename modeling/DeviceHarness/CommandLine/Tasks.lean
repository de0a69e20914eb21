import DeviceHarness.Checkin.Fetch
import DeviceHarness.CommandLine.Logging
import DeviceHarness.CommandLine.Report
import DeviceHarness.Suite.Preconditions

/-! What the commands do. -/

namespace DeviceHarness.CommandLine

/-- Which of the connected devices is meant is in doubt when there are several and none is named. -/
def checkChoice (adb : Adb) (devices : List String) : Task Unit :=
  if adb.serial.isNone && 1 < devices.length then
    Task.fail ("multiple devices connected (" ++ commaSeparated devices ++
      "), set ANDROID_SERIAL or the device.adb.serial config")
  else pure ()

/-- The client for the device, once some device is connected. -/
def connect : Task Adb := do
  let adb ← Task.onBench Adb.find
  let devices ← Task.onHost adb.connectedDevices
  checkChoice adb devices
  return adb

/-! The check of the host. -/

def checkProgram (name : String) (required : Bool) : Task Provision := do
  return ⟨name, required, ← Task.onBench (Bench.program? name)⟩

def checkVariable (name : String) (required : Bool) : Task Provision := do
  return ⟨name, required, ← Task.onBench (Bench.look (·.host.envValue? name))⟩

/-- The connected devices. Why there are none does not matter. -/
def checkDevice : Task Provision := do
  let devices : Action Bench (List String) := do
    let adb ← Adb.find
    Bench.onHost adb.connectedDevices
  match ← Task.onBench devices.outcome with
  | .ok serials => return ⟨"device", true, some (commaSeparated serials)⟩
  | .error _ => return ⟨"device", true, none⟩

def runCheck : Task Unit := do
  let adb ← checkProgram "adb" true
  let analyzer ← checkProgram "sepolicy-analyze" false
  Task.print (line "External programs:" ++ legend ++ provisionsText [adb, analyzer])
  let project ← checkVariable Host.projectVariable true
  let serial ← checkVariable Adb.serialVariable false
  Task.print (line "" ++ line "Environmental variables:" ++ line "" ++ provisionsText [project, serial])
  Task.print (line "" ++ line "Device:" ++ line "")
  Task.print (provisionText (← checkDevice))

/-! Suites. -/

def suiteNames : List String := SuiteKind.all.map SuiteKind.name

/-- The suites of the names, all of which have to exist. -/
def kindsOf : List String → Task (List SuiteKind)
  | [] => pure []
  | name :: rest =>
    match SuiteKind.find? name with
    | some kind => do return kind :: (← kindsOf rest)
    | none =>
      Task.fail ("unknown suite " ++ name ++ ", expected one of: " ++ commaSeparated suiteNames)

/-- Prints what has finished. -/
def announce {μ : Type} : Monitor (Console × μ) := fun event (console, memory) =>
  match event with
  | .started _ _ => (console, memory)
  | .finished outcome =>
    ({ console with printed := console.printed ++ outcomeText outcome }, memory)

/-- A suite at work on a console. -/
def onConsole {μ : Type} (suite : Suite (Station μ)) : Suite (Console × μ) :=
  suite.onPart (fun (console, memory) => ⟨console.bench, memory⟩)
    fun station (console, _) => ({ console with bench := station.bench }, station.memory)

/-- Runs tests of one suite. -/
def runSuite (rig : Rig) (json : Bool) (tests : List String) (kind : SuiteKind) :
    Task (List TestOutcome) :=
  ExceptT.mk fun console =>
    let monitor := if json then Monitor.silent else announce
    let (result, (console, _)) :=
      ((onConsole (kind.suite rig)).run monitor tests).perform (console, kind.start)
    (Task.ofResult result).run console

def runSuites (rig : Rig) (json : Bool) (tests : List String) :
    List SuiteKind → Task (List TestOutcome)
  | [] => pure []
  | kind :: rest => do
    let outcomes ← runSuite rig json tests kind
    let more ← runSuites rig json tests rest
    return outcomes ++ more

/-- Asks the device whether it is ready, unless it shall not be asked. -/
def checkPreconditions (rig : Rig) (request : RunRequest) : Task Unit := do
  if request.skipPreconditions || rig.settings.skipPreconditions then pure ()
  else
    let report ← Task.onBench (Preconditions.check rig)
    if !report.met && !request.json then
      Task.printLine "not all device preconditions are met, tests may fail as a result"

def showOutcomes (json : Bool) (outcomes : List TestOutcome) : Task Unit :=
  if json then Task.print (jsonText (.array (outcomes.map outcomeJson)))
  else Task.print (line "" ++ line (outcomesSummary outcomes))

def run (request : RunRequest) : Task Unit := do
  if !request.tests.isEmpty && request.suites.length != 1 then
    Task.fail "--test requires exactly one suite"
  let named ← kindsOf request.suites
  let adb ← connect
  let rig ← Task.onBench (Rig.find adb)
  checkPreconditions rig request
  let kinds := if named.isEmpty then SuiteKind.all else named
  let outcomes ← runSuites rig request.json request.tests kinds
  showOutcomes request.json outcomes
  if outcomes.any fun t => !t.outcome.isOk then throw .unsuccessful

def listSuites (withTests : Bool) : Task Unit :=
  Task.print (String.join (SuiteKind.all.map (suiteText withTests)))

/-! Dumps. -/

def report (request : CheckinRequest) : Task Checkin.Report := do
  match request.file with
  | some file => do
    let text ← Task.onBench (Bench.ask (·.readFile file))
    Task.ofResult (Checkin.verify request.format text)
  | none => do
    let adb ← connect
    Task.onHost (Checkin.fetchAndVerify adb request.format)

def checkin (request : CheckinRequest) : Task Unit := do
  let report ← report request
  Task.print (if request.json then jsonText (reportJson report) else reportText report)

/-! Installs. -/

/-- The session for the APKs. Where no ABI is given, the device picks it. -/
def sessionOf (request : InstallRequest) : Install.Session :=
  let session := Install.Session.forAbi (request.abi.getD "")
  let session :=
    if request.naturalAbi || request.abi.isNone then session.withNaturalAbi else session
  let session := match request.inheritFrom with
    | some package => session.inheriting package
    | none => session
  (request.args.foldl Install.Session.addArg session).addApks request.apks

def installForUser (adb : Adb) (user : Int) : List String → Task Unit
  | [apk] => do
    Task.onHost (Install.forUser adb apk user)
    Task.printLine ("installed " ++ apk ++ " for user " ++ Integer.text user)
  | _ => Task.fail "--user installs exactly one APK"

def install (request : InstallRequest) : Task Unit := do
  let adb ← connect
  match request.user with
  | some user => installForUser adb user request.apks
  | none =>
    if request.expectFailure then
      let reply ← Task.onHost ((sessionOf request).runExpectingFailure adb)
      Task.printLine ("rejected as expected: " ++ reply)
    else
      let id ← Task.onHost ((sessionOf request).run adb)
      Task.printLine ("session " ++ Integer.text id ++ " committed")

/-! Users. -/

/-- Work with users of which none was created yet. -/
def onUsers {α : Type} (work : Action UserWork α) : Task α :=
  Task.onHost (ExceptT.mk fun h =>
    let (result, state) := work.perform ⟨h, []⟩
    (result, state.host))

def listUsers (users : UserManager) (json : Bool) : Task Unit := do
  let list ← Task.onHost users.list
  if json then Task.print (jsonText (.array (list.map userJson)))
  else Task.print (String.join (list.map userText))

def user (request : UserRequest) : Task Unit := do
  let adb ← connect
  let settings ← Task.onBench Bench.harnessSettings
  let users : UserManager := ⟨adb, settings.wait⟩
  match request with
  | .list json => listUsers users json
  | .create =>
    if ← Task.onHost users.supportsMultiple then
      Task.printLine (Integer.text (← onUsers users.create))
    else Task.fail "device doesn't support multiple users"
  | .createProfile parent => Task.printLine (Integer.text (← onUsers (users.createProfile parent)))
  | .start id => Task.onHost (users.start id)
  | .remove id =>
    if id = Users.owner then Task.fail "refusing to remove the owner"
    else onUsers (users.remove id)
  | .removeAll => onUsers users.removeAllSecondary
  | .serial id => Task.printLine (Integer.text (← Task.onHost (users.serialNumber id)))

/-! Tests on the device. -/

def commandOf (request : InstrumentRequest) (runner : String) : Instrumentation.Command where
  package := request.package
  testClass := none
  method := request.method
  user := request.user
  params := request.params
  runner := runner

/-- The command with its class, which may be relative to the package. -/
def instrumentation (request : InstrumentRequest) (runner : String) : Instrumentation.Command :=
  match request.testClass with
  | some name => (commandOf request runner).withClass name
  | none => commandOf request runner

def instrument (request : InstrumentRequest) : Task Unit := do
  let adb ← connect
  let runner ← match request.runner with
    | some runner => pure runner
    | none => do pure (← Task.onBench Bench.harnessSettings).runner
  let run ← Task.onHost ((instrumentation request runner).run adb)
  Task.print (if request.json then jsonText (runJson run) else runText run)
  if !run.passed then throw .unsuccessful

end DeviceHarness.CommandLine
