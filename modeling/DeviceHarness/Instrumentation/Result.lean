import DeviceHarness.Dictionary
import DeviceHarness.Text.Integer

/-! What a run of tests on the device came to. -/

namespace DeviceHarness.Instrumentation

inductive Status where
  | passed
  | failed
  | ignored
  | assumptionFailure
  /-- The test started but never reported an outcome. -/
  | incomplete
  deriving Repr, DecidableEq

namespace Status

/-- The status of an outcome code. Codes that are not known count as failures. -/
def ofCode (code : Int) : Status :=
  if code = 0 then passed
  else if code = -3 then ignored
  else if code = -4 then assumptionFailure
  else failed

def isFailure : Status → Bool
  | failed | incomplete => true
  | passed | ignored | assumptionFailure => false

/-- The word for the status in a report. -/
def label : Status → String
  | passed => "PASSED"
  | failed => "FAILURE"
  | ignored => "IGNORED"
  | assumptionFailure => "ASSUMPTION_FAILURE"
  | incomplete => "INCOMPLETE"

/-- The name of the status in data. -/
def name : Status → String
  | passed => "passed"
  | failed => "failed"
  | ignored => "ignored"
  | assumptionFailure => "assumption_failure"
  | incomplete => "incomplete"

end Status

structure TestCase where
  testClass : String
  name : String
  status : Status
  stack : Option String
  deriving Repr, DecidableEq

def TestCase.title (t : TestCase) : String := t.testClass ++ "#" ++ t.name

structure Run where
  tests : List TestCase
  /-- Why the run as a whole failed, if it did. -/
  failure : Option String
  /-- The code that the run ended with. -/
  code : Option Int
  result : Dictionary String
  deriving Repr, DecidableEq

namespace Run

def count (run : Run) (status : Status) : Nat :=
  run.tests.countP fun test => test.status == status

def failures (run : Run) : List TestCase := run.tests.filter fun test => test.status.isFailure

def hasFailedTests (run : Run) : Bool := run.tests.any fun test => test.status.isFailure

/-- No failure, and at least one test that passed: a run of nothing has not shown anything. -/
def passed (run : Run) : Bool :=
  !run.hasFailedTests && run.failure.isNone && 0 < run.count .passed

def summary (run : Run) : String :=
  let number (n : Nat) : String := Integer.text n
  number (run.count .passed) ++ " passed, " ++ number run.failures.length ++ " failed, " ++
    number (run.count .ignored + run.count .assumptionFailure) ++ " ignored" ++
    match run.failure with
    | some reason => ", run failed: " ++ reason
    | none => ""

end Run
end DeviceHarness.Instrumentation
