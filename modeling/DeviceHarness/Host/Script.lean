import DeviceHarness.Host.Basic
import DeviceHarness.Text.Search

/-! A scripted device: rules that answer commands. The first rule that matches answers, each rule
gives its replies in order, and the last reply is repeated. -/

namespace DeviceHarness

structure Rule where
  /-- The operation has to be this one. -/
  operation : Option String
  /-- The rest of the command has to be this text. -/
  exactly : Option String
  /-- The rest of the command has to begin like this. -/
  start : Option String
  replies : List Completion
  deriving Repr

namespace Rule

/-- The operation and text of a run. The client of a device names its operation first, after the
serial number if there is one; any other program is its own operation. -/
def request (call : Invocation) : String × String :=
  if Text.startsWith "adb" call.program then
    let args := match call.args with
      | "-s" :: _ :: rest => rest
      | args => args
    match args with
    | [] => ("", "")
    | operation :: rest => (operation, String.intercalate " " rest)
  else (call.program, String.intercalate " " call.args)

def covers (rule : Rule) (call : Invocation) : Bool :=
  let (operation, text) := request call
  rule.operation.all (· == operation) && rule.exactly.all (· == text) &&
    rule.start.all fun start => Text.startsWith start text

/-- The reply to the `n`-th call that the rule answers, counted from zero. -/
def reply (rule : Rule) (n : Nat) : Completion :=
  (rule.replies[n]?.or rule.replies.getLast?).getD .silent

end Rule

/-- Which rule answers a call. -/
def ruleFor? (rules : List Rule) (call : Invocation) : Option Nat :=
  rules.findIdx? (·.covers call)

/-- How a device that follows the rules ends a call, given the calls before it. -/
def scripted (rules : List Rule) (before : List Invocation) (call : Invocation) : Completion :=
  match ruleFor? rules call with
  | none => .silent
  | some index =>
    match rules[index]? with
    | none => .silent
    | some rule => rule.reply (before.countP fun earlier => ruleFor? rules earlier == some index)

/-- The host with a device that follows rules from now on. -/
def Host.follow (rules : List Rule) (h : Host) : Host :=
  { h with respond := fun before call => scripted rules (before.drop h.history.length) call }

end DeviceHarness
