import DeviceHarness.Instrumentation.Result
import DeviceHarness.Text.Blank
import DeviceHarness.Text.Lines
import DeviceHarness.Text.Search
import DeviceHarness.Text.Split

/-! The raw output of a run of tests. Each line that matters starts with one of five marks; any other
line continues the value before it, because stacks span lines. The values of a test are collected in
a bundle until a status code closes it: code 1 says that the test starts, and any other code is its
outcome. -/

namespace DeviceHarness.Instrumentation

/-- One line of output, told apart by its mark. -/
inductive Line where
  /-- A value for the current test. -/
  | status (key value : String)
  /-- The end of the current bundle; no code when it cannot be read. -/
  | statusCode (code : Option Int)
  /-- A value of the run as a whole. -/
  | result (key value : String)
  /-- The end of the run; no code when it cannot be read. -/
  | code (code : Option Int)
  /-- The run failed. -/
  | failed (reason : String)
  /-- No mark: more of the value before. -/
  | continuation (text : String)
  deriving Repr, DecidableEq

namespace Line

def statusMark : String := "INSTRUMENTATION_STATUS: "
def statusCodeMark : String := "INSTRUMENTATION_STATUS_CODE: "
def resultMark : String := "INSTRUMENTATION_RESULT: "
def codeMark : String := "INSTRUMENTATION_CODE: "
def failedMark : String := "INSTRUMENTATION_FAILED: "

/-- A key, trimmed, and all that follows the first equals sign. -/
def keyValue (s : List Char) : String × String :=
  match Text.splitOnce '=' s with
  | some (key, value) => (String.ofList (Text.trimmed key), String.ofList value)
  | none => (String.ofList (Text.trimmed s), "")

def number? (s : List Char) : Option Int := Integer.ofChars? 32 (Text.trimmed s)

def ofChars (s : List Char) : Line :=
  let after? (mark : String) : Option (List Char) := Text.after? mark.toList s
  match after? statusMark with
  | some rest => let (key, value) := keyValue rest; .status key value
  | none =>
  match after? statusCodeMark with
  | some rest => .statusCode (number? rest)
  | none =>
  match after? resultMark with
  | some rest => let (key, value) := keyValue rest; .result key value
  | none =>
  match after? codeMark with
  | some rest => .code (number? rest)
  | none =>
  match after? failedMark with
  | some rest => .failed (String.ofList (Text.trimmed rest))
  | none => .continuation (String.ofList s)

end Line

/-- Where a continuation line belongs. -/
inductive Pending where
  | nothing
  | status (key : String)
  | result (key : String)
  deriving Repr, DecidableEq

/-- How far the output has been read. -/
structure Reading where
  pending : Pending
  /-- The values since the last status code. -/
  bundle : Dictionary String
  /-- The test that has started and not ended. -/
  current : Option TestCase
  run : Run
  deriving Repr, DecidableEq

namespace Reading

def start : Reading := ⟨.nothing, [], none, ⟨[], none, none, []⟩⟩

def addTests (r : Reading) (tests : List TestCase) : Reading :=
  { r with run := { r.run with tests := r.run.tests ++ tests } }

/-- The test that the bundle is about. -/
def bundled (r : Reading) (status : Status) (stack : Option String) : TestCase :=
  ⟨(r.bundle.get? "class").getD "", (r.bundle.get? "test").getD "", status, stack⟩

/-- Whether the started test is the one that the bundle is about. -/
def continues (r : Reading) : Bool :=
  r.current.any fun test =>
    test.testClass == (r.bundle.get? "class").getD "" && test.name == (r.bundle.get? "test").getD ""

/-- A test starts. One that had started before stays incomplete. -/
def started (r : Reading) : Reading :=
  { r.addTests r.current.toList with bundle := [], current := some (r.bundled .incomplete none) }

/-- A test ends, whether it had started or not. A different test that had started stays
incomplete. -/
def ended (r : Reading) (code : Int) : Reading :=
  let test := r.bundled (.ofCode code) (r.bundle.get? "stack")
  let abandoned := if r.continues then [] else r.current.toList
  { r.addTests (abandoned ++ [test]) with bundle := [], current := none }

/-- A status code closes the bundle. One that cannot be read closes nothing. -/
def statusCode (r : Reading) : Option Int → Reading
  | none => r
  | some code => if code = 1 then r.started else r.ended code

/-- More of the pending value, on a line of its own. -/
def continued (r : Reading) (text : String) : Reading :=
  let more (value : String) : String := value ++ "\n" ++ text
  match r.pending with
  | .nothing => r
  | .status key => { r with bundle := r.bundle.modify key more }
  | .result key => { r with run := { r.run with result := r.run.result.modify key more } }

def feed (r : Reading) : Line → Reading
  | .status key value => { r with bundle := r.bundle.insert key value, pending := .status key }
  | .statusCode code => { r with pending := .nothing }.statusCode code
  | .result key value =>
    { r with run := { r.run with result := r.run.result.insert key value }, pending := .result key }
  | .code code => { r with run := { r.run with code := code }, pending := .nothing }
  | .failed reason => { r with run := { r.run with failure := some reason }, pending := .nothing }
  | .continuation text => r.continued text

/-- Why the run as a whole failed: the reason it gave, or else a test that never ended, a short
message among the results, or a missing end. -/
def failure? (r : Reading) : Option String :=
  match r.run.failure with
  | some reason => some reason
  | none =>
    if r.current.isSome then some "test run incomplete"
    else match r.run.result.get? "shortMsg" with
      | some message => some (Text.trim message)
      | none => if r.run.code.isNone then some "instrumentation did not complete" else none

/-- The end of the output. A test that has not ended stays incomplete. -/
def finish (r : Reading) : Run :=
  { (r.addTests r.current.toList).run with failure := r.failure? }

end Reading

/-- The lines of the output, without carriage returns at their ends. -/
def outputLines (text : List Char) : List (List Char) :=
  (Text.linesOf text).map fun line => (line.reverse.dropWhile (· == '\r')).reverse

def Run.ofOutput (text : String) : Run :=
  (((outputLines text.toList).map Line.ofChars).foldl Reading.feed Reading.start).finish

end DeviceHarness.Instrumentation
