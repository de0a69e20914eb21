import DeviceHarness.Host.Scratch
import DeviceHarness.Suite.Rig

/-! The suite for the security policy of the device: an analyzer on the host reads the policy and
lists the domains that are not enforced. There must be none. -/

namespace DeviceHarness.Selinux

def name : String := "selinux"
def tests : List String := ["all_enforcing"]

def analyzer : String := "sepolicy-analyze"

/-- Where the device keeps the policy that it runs. -/
def devicePolicy : String := "/sys/fs/selinux/policy"

/-- What the set-up prepared. -/
structure Memory where
  /-- The path of the analyzer. -/
  analyzer : Option String
  /-- The scratch folder that holds the policy. -/
  folder : Option String
  /-- The path of the policy. -/
  policy : Option String
  deriving Repr, DecidableEq

def Memory.start : Memory := ⟨none, none, none⟩

abbrev Work := Action (Station Memory)

/-- Pulls the policy into a scratch folder, which is removed if that fails. -/
def pullPolicy (adb : Adb) : Action Host (String × String) := do
  let folder ← Host.createScratch "hostcts_sepolicy_"
  let policy := Path.join folder "policy"
  let pulled ← (adb.pull devicePolicy policy).outcome
  match pulled.bind Completion.requireSuccess with
  | .ok _ => return (folder, policy)
  | .error e => do
    let _ ← (Host.removeScratch folder).outcome
    throw e

def setUp (rig : Rig) : Work Unit := do
  let analyzer ← Station.onBench (Bench.program analyzer)
  Station.remember fun memory => { memory with analyzer := some analyzer }
  let (folder, policy) ← Station.onHost (pullPolicy rig.adb)
  match (← Station.remembered).folder with
  | some earlier => do
    let _ ← (Station.onHost (Host.removeScratch earlier)).outcome
  | none => pure ()
  Station.remember fun memory => { memory with folder := some folder, policy := some policy }

/-- What the analyzer prints are the domains that are not enforced. -/
def judge (analysis : Completion) : Except Error Verdict :=
  let domains := analysis.out ++ analysis.err
  if Text.blank domains then .ok .passed
  else
    .error (.assertion
      ("the following SELinux domains were found to be in permissive mode:\n" ++ domains))

def allEnforcing : Work Verdict := do
  let memory ← Station.remembered
  match memory.analyzer, memory.policy with
  | some analyzer, some policy => do
    let analysis ← Station.onHost (Host.run analyzer [policy, "permissive"])
    Action.ofResult (judge analysis)
  | _, _ => throw (.harness "selinux suite used before set up")

def runTest : String → Work Verdict
  | "all_enforcing" => allEnforcing
  | test => unknownTest test

def tearDown : Work Unit := do
  let folder := (← Station.remembered).folder
  Station.remember fun memory => { memory with folder := none, policy := none }
  match folder with
  | some folder => Station.onHost (Host.removeScratch folder)
  | none => pure ()

def suite (rig : Rig) : Suite (Station Memory) where
  name := name
  tests := tests
  setUp := setUp rig
  runTest := runTest
  tearDown := tearDown
  clock := Station.clock

end DeviceHarness.Selinux
