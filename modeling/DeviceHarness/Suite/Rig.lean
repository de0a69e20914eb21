import DeviceHarness.Bench
import DeviceHarness.Install.Apps
import DeviceHarness.Instrumentation.Execution
import DeviceHarness.Suite.Run

/-! What the suites for a device work with. All of them share the bench and a rig, which says how to
reach the device and how the project wants to be tested; each suite remembers something of its own
from its set-up to its tear-down. -/

namespace DeviceHarness

structure Rig where
  adb : Adb
  settings : HarnessSettings
  deriving Repr, DecidableEq

/-- The bench, and what a suite remembers. -/
structure Station (μ : Type) where
  bench : Bench
  memory : μ

namespace Station

variable {μ α : Type}

def onBench (work : Action Bench α) : Action (Station μ) α :=
  work.within Station.bench fun bench station => { station with bench := bench }

def onHost (work : Action Host α) : Action (Station μ) α := onBench (Bench.onHost work)

def remembered : Action (Station μ) μ := ExceptT.mk fun station => (.ok station.memory, station)

def remember (change : μ → μ) : Action (Station μ) Unit :=
  ExceptT.mk fun station => (.ok (), { station with memory := change station.memory })

def clock (station : Station μ) : Duration := station.bench.host.clock

variable (station : Station μ)

@[simp] theorem perform_onBench (work : Action Bench α) :
    (onBench work).perform station =
      ((work.perform station.bench).1, { station with bench := (work.perform station.bench).2 }) := rfl

@[simp] theorem perform_onHost (work : Action Host α) :
    (onHost work).perform station = ((work.perform station.bench.host).1,
      { station with bench := { station.bench with host := (work.perform station.bench.host).2 } }) := rfl

@[simp] theorem perform_remembered : remembered.perform station = (.ok station.memory, station) := rfl

@[simp] theorem perform_remember (change : μ → μ) :
    (remember change).perform station = (.ok (), { station with memory := change station.memory }) := rfl

end Station

namespace Rig

/-- A rig with the settings of the project. -/
def find (adb : Adb) : Action Bench Rig := do
  return ⟨adb, ← Bench.harnessSettings⟩

/-- The ABI to install for: the one of the settings, or the one that the device prefers. -/
def abi (rig : Rig) : Action Host String :=
  match rig.settings.abi with
  | some abi => pure abi
  | none => Device.primaryAbi rig.adb

/-- The command that runs the tests of a package as the project wants it. -/
def instrumentation (rig : Rig) (package : String) : Instrumentation.Command :=
  (Instrumentation.Command.forPackage package).withRunner rig.settings.runner

/-- Runs one test on the device, which has to pass. -/
def runDeviceTest (rig : Rig) (package testClass method : String) : Action Host Unit := do
  let command := ((rig.instrumentation package).withClass testClass).withMethod method
  let _ ← command.runExpectingPass rig.adb

/-- Uninstalls a package, whether or not it is there. -/
def uninstall (rig : Rig) (package : String) : Action Host Unit := Install.uninstall rig.adb package

/-- Installs a test APK. -/
def installApp (rig : Rig) (apps : TestApps) (name : String) : Action Bench Unit := do
  let apk ← Bench.ask (apps.apk name)
  Bench.onHost (rig.adb.install apk)

/-- Installs a test APK in place of the package it brings. -/
def reinstallApp (rig : Rig) (package name : String) : Action Bench Unit := do
  Bench.onHost (rig.uninstall package)
  rig.installApp (← TestApps.find) name

end Rig

/-- The failure of a test that a suite does not have. -/
def unknownTest {σ α : Type} (test : String) : Action σ α := throw (.generic ("unknown test " ++ test))

end DeviceHarness
