import DeviceHarness.Text.Integer

/-! What can go wrong while a device is under test. Each constructor is one cause, and
`Error.message` is the only place that words them. A test that fails because the device
answered differently than it should is an `assertion`; everything else means that the test
could not be carried out. -/

namespace DeviceHarness

inductive Error where
  /-- A host program that the work needs was not found. -/
  | missingProgram (name : String)
  /-- An environment variable that the work needs is not set. -/
  | missingVariable (name : String)
  /-- The operating system refused. -/
  | system (text : String)
  /-- A command ended without success, or was killed (status -1). -/
  | command (status : Int) (text : String)
  | noDevice
  | deviceNotFound (serial : String)
  /-- The connection to the device failed, the device itself said nothing. -/
  | device (text : String)
  | adbDisabled
  /-- The device answered differently than expected: an ordinary test failure. -/
  | assertion (text : String)
  /-- The device answered in a form that cannot be understood at all. -/
  | harness (text : String)
  | pushFailed (text : String)
  | timeout (what : String)
  | generic (text : String)
  /-- The project configuration at `path` is unusable. -/
  | invalidConfig (path : String) (text : String)
  | missingFile (path : String)
  deriving Repr, DecidableEq

namespace Error

def message : Error → String
  | missingProgram name => "required binary `" ++ name ++ "` not available to context"
  | missingVariable name => "missing required env var: " ++ name
  | system text => text
  | command status text => "command failed with status " ++ Integer.text status ++ ": " ++ text
  | noDevice => "no adb device connected"
  | deviceNotFound serial => "adb device " ++ serial ++ " not found"
  | device text => "device error: " ++ text
  | adbDisabled => "adb disabled by configuration file"
  | assertion text => "assertion failed: " ++ text
  | harness text => "harness error: " ++ text
  | pushFailed text => "failed to push " ++ text
  | timeout what => "timed out waiting for " ++ what
  | generic text => "generic error: " ++ text
  | invalidConfig path text => "invalid config " ++ path ++ ": " ++ text
  | missingFile path => "file " ++ path ++ " doesn't exist"

/-- Whether this is an ordinary test failure. -/
def isAssertion : Error → Bool
  | assertion _ => true
  | _ => false

end Error

/-! Results in turn, of which the first failure is that of all. -/

theorem bind_ok {ε α β : Type} {first : Except ε α} {next : α → Except ε β} {value : β} :
    (first >>= next) = .ok value ↔ ∃ a, first = .ok a ∧ next a = .ok value := by
  cases first with
  | error e => simp [bind, Except.bind]
  | ok a => simp [bind, Except.bind]

theorem bind_error {ε α β : Type} {first : Except ε α} {next : α → Except ε β} {e : ε} :
    (first >>= next) = .error e ↔ first = .error e ∨ ∃ a, first = .ok a ∧ next a = .error e := by
  cases first with
  | error other => simp [bind, Except.bind]
  | ok a => simp [bind, Except.bind]

end DeviceHarness
