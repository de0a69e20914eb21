import DeviceHarness.Suite.Dumpsys
import DeviceHarness.Suite.LauncherMultiUser
import DeviceHarness.Suite.RunAs
import DeviceHarness.Suite.Selinux
import DeviceHarness.Suite.Splits
import DeviceHarness.Suite.TrustedVoice

/-! The suites by their names. -/

namespace DeviceHarness

inductive SuiteKind where
  | dumpsys
  | splits
  | launcherMultiUser
  | selinux
  | runAs
  | trustedVoice
  deriving Repr, DecidableEq

namespace SuiteKind

/-- All suites, in the order in which they are listed and run. -/
def all : List SuiteKind := [dumpsys, splits, launcherMultiUser, selinux, runAs, trustedVoice]

def name : SuiteKind → String
  | dumpsys => Dumpsys.name
  | splits => Splits.name
  | launcherMultiUser => LauncherMultiUser.name
  | selinux => Selinux.name
  | runAs => RunAs.name
  | trustedVoice => TrustedVoice.name

def description : SuiteKind → String
  | dumpsys => "validate the dumpsys checkin formats"
  | splits => "split APK installs through pm install sessions"
  | launcherMultiUser => "LauncherApps across users"
  | selinux => "no permissive SELinux domains"
  | runAs => "run-as for debuggable apps"
  | trustedVoice => "trusted voice activity runs on a locked device"

def tests : SuiteKind → List String
  | dumpsys => Dumpsys.tests
  | splits => Splits.tests
  | launcherMultiUser => LauncherMultiUser.tests
  | selinux => Selinux.tests
  | runAs => RunAs.tests
  | trustedVoice => TrustedVoice.tests

def find? (name : String) : Option SuiteKind := all.find? (·.name == name)

/-- The suite of a name, which has to exist. -/
def require (name : String) : Except Error SuiteKind :=
  match find? name with
  | some kind => .ok kind
  | none => .error (.generic ("unknown suite " ++ name))

/-- What a suite remembers. -/
def Memory : SuiteKind → Type
  | splits => Splits.Memory
  | launcherMultiUser => LauncherMultiUser.Memory
  | selinux => Selinux.Memory
  | dumpsys | runAs | trustedVoice => Unit

/-- What a suite remembers before its first set-up. -/
def start : (kind : SuiteKind) → kind.Memory
  | splits => Splits.Memory.start
  | launcherMultiUser => LauncherMultiUser.Memory.start
  | selinux => Selinux.Memory.start
  | dumpsys => ()
  | runAs => ()
  | trustedVoice => ()

def suite (rig : Rig) : (kind : SuiteKind) → Suite (Station kind.Memory)
  | dumpsys => Dumpsys.suite rig
  | splits => Splits.suite rig
  | launcherMultiUser => LauncherMultiUser.suite rig
  | selinux => Selinux.suite rig
  | runAs => RunAs.suite rig
  | trustedVoice => TrustedVoice.suite rig

end SuiteKind
end DeviceHarness
