import DeviceHarness.Error

/-! What came of a test. Only an assertion after a finished set-up says something about the device;
any other failure says that the test could not be carried out. -/

namespace DeviceHarness

/-- What a test that did not fail concluded. -/
inductive Verdict where
  | passed
  /-- The device cannot run the test. -/
  | skipped (reason : String)
  deriving Repr, DecidableEq

inductive Outcome where
  | passed
  | skipped (reason : String)
  /-- The device did something else than it should. -/
  | failed (message : String)
  /-- The test could not be carried out. -/
  | error (message : String)
  deriving Repr, DecidableEq

namespace Outcome

def ofResult : Except Error Verdict → Outcome
  | .ok .passed => passed
  | .ok (.skipped reason) => skipped reason
  | .error e => if e.isAssertion then failed e.message else error e.message

def isOk : Outcome → Bool
  | passed | skipped _ => true
  | failed _ | error _ => false

theorem isOk_eq_true {outcome : Outcome} : outcome.isOk = true ↔ outcome = passed ∨ ∃ reason, outcome = skipped reason := by
  cases outcome <;> simp [isOk]

theorem isOk_eq_false {outcome : Outcome} :
    outcome.isOk = false ↔ ∃ message, outcome = failed message ∨ outcome = error message := by
  cases outcome <;> simp [isOk]

/-- The outcome in a line of a log. -/
def text : Outcome → String
  | passed => "PASSED"
  | skipped reason => "SKIPPED (" ++ reason ++ ")"
  | failed message => "FAILED: " ++ message
  | error message => "ERROR: " ++ message

end Outcome

/-- What came of one test of a suite. -/
structure TestOutcome where
  suite : String
  test : String
  outcome : Outcome
  /-- How long the test took. -/
  milliseconds : Nat
  deriving Repr, DecidableEq

/-- What is reported while a suite runs. -/
inductive Event where
  | started (suite test : String)
  | finished (outcome : TestOutcome)
  deriving Repr, DecidableEq

end DeviceHarness
