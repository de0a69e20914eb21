import DeviceHarness.Checkin.Validator
import DeviceHarness.Instrumentation.Output
import DeviceHarness.Json
import DeviceHarness.Reply.Users
import DeviceHarness.Suite.Catalog

/-! What commands print: each result as lines for people, and as JSON. -/

namespace DeviceHarness.CommandLine

/-- A line of its own. -/
def line (text : String) : String := text ++ "\n"

/-- The lines of a message, indented. -/
def indented (message : String) : String :=
  String.join ((Text.lines message).map fun text => line ("    " ++ text))

def commaSeparated (items : List String) : String := String.intercalate ", " items

def jsonText (json : Json) : String := line json.pretty

/-! Dumps. -/

def reportText (r : Checkin.Report) : String :=
  line ("OK " ++ r.format.name ++ " dump, " ++ Integer.text r.records ++ " records") ++
    line ("version: " ++ match r.version with
      | some version => Integer.text version
      | none => "none declared") ++
    line ("tags: " ++ commaSeparated r.seenTags) ++
    if r.unknownTags.isEmpty then "" else line ("unknown tags: " ++ commaSeparated r.unknownTags)

def reportJson (r : Checkin.Report) : Json :=
  .object [("format", .string r.format.name), ("records", .number r.records),
    ("version", .option Json.number r.version), ("seen_tags", .strings r.seenTags),
    ("unknown_tags", .strings r.unknownTags)]

/-! Tests on the device. -/

def testText (t : Instrumentation.TestCase) : String :=
  line ("[ " ++ t.status.label ++ " ] " ++ t.title) ++
    if t.status.isFailure then indented (t.stack.getD "") else ""

def runText (run : Instrumentation.Run) : String :=
  String.join (run.tests.map testText) ++ line run.summary

def testJson (t : Instrumentation.TestCase) : Json :=
  .object ([("class", .string t.testClass), ("name", .string t.name),
    ("status", .string t.status.name)] ++ Json.member? "stack" Json.string t.stack)

def runJson (run : Instrumentation.Run) : Json :=
  .object ([("tests", .array (run.tests.map testJson))] ++
    Json.member? "run_failure" Json.string run.failure ++ Json.member? "code" Json.number run.code ++
    [("result", .object (run.result.map fun (key, value) => (key, .string value)))])

/-! Users. -/

def userText (user : Reply.User) : String :=
  line (Integer.text user.id ++ ": " ++ user.name ++ if user.running then " running" else "")

def userJson (user : Reply.User) : Json :=
  .object [("id", .number user.id), ("name", .string user.name), ("running", .boolean user.running)]

/-! Suites. -/

def outcomeText (t : TestOutcome) : String :=
  let titled (label : String) : String := "[ " ++ label ++ " ] " ++ t.suite ++ "#" ++ t.test
  match t.outcome with
  | .passed => line (titled "PASS" ++ " (" ++ Integer.text t.milliseconds ++ " ms)")
  | .skipped reason => line (titled "SKIP" ++ ": " ++ reason)
  | .failed message => line (titled "FAIL") ++ indented message
  | .error message => line (titled "ERR ") ++ indented message

def outcomeMembers : Outcome → List (String × Json)
  | .passed => [("result", .string "passed")]
  | .skipped reason => [("result", .string "skipped"), ("reason", .string reason)]
  | .failed message => [("result", .string "failed"), ("message", .string message)]
  | .error message => [("result", .string "error"), ("message", .string message)]

def outcomeJson (t : TestOutcome) : Json :=
  .object ([("suite", .string t.suite), ("test", .string t.test)] ++ outcomeMembers t.outcome ++
    [("duration_ms", .number t.milliseconds)])

/-- How many outcomes there are of each kind. -/
def outcomesSummary (outcomes : List TestOutcome) : String :=
  let count (isOfKind : Outcome → Bool) (word : String) : String :=
    Integer.text (outcomes.countP fun t => isOfKind t.outcome) ++ " " ++ word
  commaSeparated
    [count (fun | .passed => true | _ => false) "passed",
     count (fun | .skipped _ => true | _ => false) "skipped",
     count (fun | .failed _ => true | _ => false) "failed",
     count (fun | .error _ => true | _ => false) "errors"]

def suiteText (withTests : Bool) (kind : SuiteKind) : String :=
  line (kind.name ++ ": " ++ kind.description) ++
    if withTests then String.join (kind.tests.map fun test => line ("    " ++ test)) else ""

/-! The check of the host. -/

/-- Something that the host should have. -/
structure Provision where
  name : String
  required : Bool
  /-- What was found. -/
  found : Option String
  deriving Repr, DecidableEq

def present : String := "🚀"
def requiredMissing : String := "💩"
def optionalMissing : String := "😒"

def provisionText (p : Provision) : String :=
  match p.found with
  | some found => line (present ++ ": " ++ p.name ++ " (" ++ found ++ ")")
  | none => line ((if p.required then requiredMissing else optionalMissing) ++ ": " ++ p.name)

def provisionsText (provisions : List Provision) : String :=
  String.join (provisions.map provisionText)

def legend : String :=
  line "" ++ line (present ++ " = Present") ++ line (requiredMissing ++ " = Required and missing") ++
    line (optionalMissing ++ " = Optional and missing") ++ line ""

end DeviceHarness.CommandLine
