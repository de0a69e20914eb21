import DeviceHarness.Adb.Transport
import DeviceHarness.Text.Lossy

/-! Programs that the host runs: what was asked, and how it ended. -/

namespace DeviceHarness

/-- One run of a program: its name and its arguments. -/
structure Invocation where
  program : String
  args : List String
  deriving Repr, DecidableEq

/-- How a run ended: with an exit status, or killed without one. -/
inductive Ending where
  | exited (status : Int)
  | killed
  deriving Repr, DecidableEq

/-- A run that ended with a code. The status keeps the last byte of it. -/
def Ending.ofCode (code : Int) : Ending := .exited (code % 256)

/-- How a run ended and what it printed. -/
structure Completion where
  ending : Ending
  out : String
  err : String
  deriving Repr, DecidableEq

namespace Completion

/-- A run that printed bytes. -/
def ofBytes (ending : Ending) (out err : List UInt8) : Completion :=
  ⟨ending, Text.ofBytes out, Text.ofBytes err⟩

/-- A run that said nothing and succeeded. -/
def silent : Completion := ⟨.exited 0, "", ""⟩

def succeeded (c : Completion) : Bool := c.ending == .exited 0

/-- The exit status; a run that was killed counts as -1. -/
def status (c : Completion) : Int :=
  match c.ending with
  | .exited status => status
  | .killed => -1

/-- The run itself if it succeeded, or else its status and what it complained of. -/
def requireSuccess (c : Completion) : Except Error Completion :=
  if c.succeeded then .ok c else .error (.command c.status c.err)

/-- Why a shell command never gave an answer: its connection failed, or it failed silently. -/
def transportFailure? (c : Completion) (command : String) : Option Error :=
  match Adb.connectionError? c.err with
  | some e => some e
  | none =>
    if !c.succeeded && c.out.isEmpty && Text.blank c.err then
      some (.command c.status ("`" ++ command ++ "` failed without output"))
    else none

/-- The answer of a shell command is all that it printed. Commands tell their outcome in the text,
so an exit status alone fails nothing. -/
def answer (c : Completion) (command : String) : Except Error String :=
  match c.transportFailure? command with
  | some e => .error e
  | none => .ok (c.out ++ c.err)

/-- For commands that have nothing to say: they fail with their connection or their status. -/
def requireDone (c : Completion) : Except Error Unit :=
  match Adb.connectionError? c.err with
  | some e => .error e
  | none => c.requireSuccess.map fun _ => ()

end Completion
end DeviceHarness
