import DeviceHarness.Install.Session
import DeviceHarness.Suite.Rig

/-! The suite for apps that are split into several APKs. A test is a plan: a list of installs that
have to work or have to be refused, and of device tests that look at what is installed. -/

namespace DeviceHarness.Splits

def name : String := "splits"
def package : String := "com.android.cts.splitapp"
def testClass : String := ".SplitAppTest"

/-! The APKs of the split app. -/

def base : String := "CtsSplitApp.apk"

def mdpi : String := "CtsSplitApp_mdpi-v4.apk"
def hdpi : String := "CtsSplitApp_hdpi-v4.apk"
def xhdpi : String := "CtsSplitApp_xhdpi-v4.apk"
def xxhdpi : String := "CtsSplitApp_xxhdpi-v4.apk"

def v7 : String := "CtsSplitApp_v7.apk"
def french : String := "CtsSplitApp_fr.apk"
def german : String := "CtsSplitApp_de.apk"

def revision : String := "CtsSplitAppDiffRevision.apk"
def revisionV7 : String := "CtsSplitAppDiffRevision_v7.apk"

def version : String := "CtsSplitAppDiffVersion.apk"
def versionV7 : String := "CtsSplitAppDiffVersion_v7.apk"

def certificateV7 : String := "CtsSplitAppDiffCert_v7.apk"

def feature : String := "CtsSplitAppFeature.apk"
def featureV7 : String := "CtsSplitAppFeature_v7.apk"

/-- One step of a plan. -/
inductive Step where
  /-- Installs APKs in place of what is installed. -/
  | install (apks : List String)
  /-- Adds APKs to what is installed. -/
  | layer (apks : List String)
  /-- Installs a newer version over what is installed, which keeps its data. -/
  | update (apks : List String)
  /-- Has APKs refused. -/
  | refuse (apks : List String)
  /-- Has APKs refused as an addition to what is installed. -/
  | refuseLayer (apks : List String)
  /-- Installs the base with the native code of all ABIs or of the one under test; the device may
  pick the ABI if `natural` is set. -/
  | installNative (all natural : Bool)
  /-- Runs a device test. -/
  | check (method : String)
  deriving Repr, DecidableEq

/-- The tests and their plans. -/
def plans : List (String × List Step) :=
  [("single_base", [.install [base], .check "testSingleBase"]),
   ("density_single", [.install [base, mdpi], .check "testDensitySingle"]),
   ("density_all", [.install [base, mdpi, hdpi, xhdpi, xxhdpi], .check "testDensityAll"]),
   ("density_best",
    [.install [base, mdpi], .check "testDensityBest1", .layer [xxhdpi], .check "testDensityBest2"]),
   ("api", [.install [base, v7], .check "testApi"]),
   ("locale", [.install [base, german, french], .check "testLocale"]),
   ("native_single", [.installNative false false, .check "testNative"]),
   ("native_single_natural", [.installNative false true, .check "testNative"]),
   ("native_all", [.installNative true false, .check "testNative"]),
   ("native_all_natural", [.installNative true true, .check "testNative"]),
   ("duplicate_base", [.refuse [base, base]]),
   ("duplicate_split", [.refuse [base, v7, v7]]),
   ("diff_cert", [.refuse [base, certificateV7]]),
   ("diff_cert_inherit", [.install [base], .refuseLayer [certificateV7]]),
   ("diff_version", [.refuse [base, versionV7]]),
   ("diff_version_inherit", [.install [base], .refuseLayer [versionV7]]),
   ("diff_revision", [.install [base, revisionV7], .check "testRevision0_12"]),
   ("diff_revision_inherit_base",
    [.install [base, v7], .check "testRevision0_0", .layer [revisionV7],
     .check "testRevision0_12"]),
   ("diff_revision_inherit_split",
    [.install [base, v7], .check "testRevision0_0", .layer [revision], .check "testRevision12_0"]),
   ("diff_revision_downgrade", [.install [base, revisionV7], .refuseLayer [v7]]),
   ("feature_base", [.install [base, feature], .check "testFeatureBase"]),
   ("feature_api", [.install [base, feature, featureV7], .check "testFeatureApi"]),
   ("clear_code_cache",
    [.install [base], .check "testCodeCacheWrite", .update [version], .check "testCodeCacheRead"])]

def tests : List String := plans.map Prod.fst

/-- What the set-up found out. -/
structure Memory where
  apps : Option TestApps
  abi : Option String
  deriving Repr, DecidableEq

namespace Memory

def start : Memory := ⟨none, none⟩

/-- Something that the set-up must have found out. -/
def need {α : Type} (found : Option α) : Except Error α :=
  match found with
  | some a => .ok a
  | none => .error (.harness "splits suite used before set up")

end Memory

abbrev Work := Action (Station Memory)

/-- The paths of APKs, all of which have to exist. -/
def paths (apps : TestApps) (h : Host) : List String → Except Error (List String)
  | [] => .ok []
  | name :: rest => do
    let path ← apps.apk name h
    let more ← paths apps h rest
    return path :: more

/-- The paths of APKs. -/
def locate (names : List String) : Work (List String) := do
  match names with
  | [] => return []
  | _ :: _ => do
    let apps ← Action.ofResult (Memory.need (← Station.remembered).apps)
    Station.onBench (Bench.ask fun host => paths apps host names)

/-- A session for the ABI under test. -/
def session : Work Install.Session := do
  return .forAbi (← Action.ofResult (Memory.need (← Station.remembered).abi))

/-- A session with APKs. -/
def sessionWith (apks : List String) : Work Install.Session := do
  let session ← session
  return session.addApks (← locate apks)

/-- A session that adds APKs to the installed package. -/
def layering (apks : List String) : Work Install.Session := do
  let session ← session
  return (session.inheriting package).addApks (← locate apks)

/-- The APKs with native code, either all of them or the one for the ABI under test. -/
def nativeApks (rig : Rig) (all : Bool) : Work (List String) := do
  if all then return rig.settings.splits.apks
  else
    let abi ← Action.ofResult (Memory.need (← Station.remembered).abi)
    return [← Action.ofResult (rig.settings.splits.require abi)]

def commit (rig : Rig) (session : Install.Session) : Work Unit := do
  let _ ← Station.onHost (session.run rig.adb)

def expectRefusal (rig : Rig) (session : Install.Session) : Work Unit := do
  let _ ← Station.onHost (session.runExpectingFailure rig.adb)

def perform (rig : Rig) : Step → Work Unit
  | .install apks => do commit rig (← sessionWith apks)
  | .layer apks => do commit rig (← layering apks)
  | .update apks => do commit rig ((← sessionWith apks).addArg "-r")
  | .refuse apks => do expectRefusal rig (← sessionWith apks)
  | .refuseLayer apks => do expectRefusal rig (← layering apks)
  | .installNative all natural => do
    let session ← sessionWith (base :: (← nativeApks rig all))
    commit rig (if natural then session.withNaturalAbi else session)
  | .check method => Station.onHost (rig.runDeviceTest package testClass method)

def runTest (rig : Rig) (test : String) : Work Verdict := do
  match plans.lookup test with
  | some steps => do
    Action.each (perform rig) steps
    return .passed
  | none => unknownTest test

def setUp (rig : Rig) : Work Unit := do
  let apps ← Station.onBench TestApps.find
  Station.remember fun memory => { memory with apps := some apps }
  let abi ← Station.onHost (rig.abi)
  Station.remember fun memory => { memory with abi := some abi }
  Station.onHost (rig.uninstall package)

def suite (rig : Rig) : Suite (Station Memory) where
  name := name
  tests := tests
  setUp := setUp rig
  runTest := runTest rig
  tearDown := Station.onHost (rig.uninstall package)
  clock := Station.clock

end DeviceHarness.Splits
